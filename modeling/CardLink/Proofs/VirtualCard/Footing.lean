import CardLink.Proofs.VirtualCard.SessionTraffic
import CardLink.Proofs.Wire.RoundTrip

/-!
# Sessions on the network

What one session after another does to the network is a path of events. On its way a footing says which port
is bound, which connection is open and whether its card was powered. A port is bound, a peer dialled or another
channel used only when there is neither port nor connection. If its card was powered, a connection is ended with
a reset as the last frame, and its port is given back next. The condition is that peers take all writes.
-/

namespace CardLink.VirtualCard

inductive NetworkEvent where
  /-- An address was dialled, with the connection if that made one. -/
  | dialled (made : Option Nat)
  | bound (port : Option Nat)
  | accepted (port : Nat) (made : Option Nat)
  | hungUp (id : Nat) (sent : Bytes)
  | unbound (port : Nat)
  /-- Something was sent over a channel that is no virtual card. -/
  | elsewhere
  /-- The owner gave the channel away, with all that belongs to it. -/
  | handedOver
  deriving DecidableEq, Repr

def NetworkEvent.made : NetworkEvent → Option Nat
  | .dialled made | .accepted _ made => made
  | _ => none

/-- The port that a peer was accepted at. -/
def NetworkEvent.port : NetworkEvent → Option Nat
  | .accepted port _ => some port
  | _ => none

/-- What happens while a port is bound. -/
def NetworkEvent.OnPort (port : Nat) : NetworkEvent → Prop
  | .accepted p _ => p = port
  | .hungUp _ _ => True
  | _ => False

/-! ## What is sent on a connection -/

def resetPayload : Bytes := [ControlCode.reset.toByte]

/-- Complete frames, none of them a reset. -/
def Unended (sent : Bytes) : Prop :=
  ∃ payloads : List Bytes, sent = payloads.flatMap Frame.encode ∧
    (∀ p ∈ payloads, p.length ≤ Frame.maxPayload) ∧ resetPayload ∉ payloads

/-- Complete frames, of which the last is a reset and no other. -/
def Ended (sent : Bytes) : Prop :=
  ∃ payloads : List Bytes, Frame.split sent = (payloads ++ [resetPayload], []) ∧ resetPayload ∉ payloads

theorem Unended.append {sent payload : Bytes} (h : Unended sent) (hshort : payload.length ≤ Frame.maxPayload)
    (hreset : payload ≠ resetPayload) : Unended (sent ++ Frame.encode payload) := by
  obtain ⟨payloads, rfl, hpayloads, hnone⟩ := h
  refine ⟨payloads ++ [payload], by simp, ?_, ?_⟩
  · intro p hp
    rcases List.mem_append.mp hp with hp | hp
    · exact hpayloads p hp
    · rw [List.mem_singleton.mp hp]
      exact hshort
  · intro hp
    rcases List.mem_append.mp hp with hp | hp
    · exact hnone hp
    · exact hreset (List.mem_singleton.mp hp).symm

theorem unended_powerOn : Unended (Frame.control .powerOn) := by
  refine ⟨[[ControlCode.powerOn.toByte]], by simp [Codec.control_eq_encode], ?_, by decide⟩
  intro p hp
  rw [List.mem_singleton.mp hp]
  decide

theorem Unended.call {sent : Bytes} (h : Unended sent) (call : CardCall) : Unended (sent ++ call.frame) := by
  unfold CardCall.frame
  split
  · next hshort =>
    apply h.append hshort
    cases call with
    | transmit c =>
      have hfour := Command.four_le_length_encode c
      intro heq
      rw [CardCall.payload] at heq
      rw [heq] at hfour
      revert hfour
      decide
    | atr => decide
  · rw [List.append_nil]
    exact h

theorem Unended.reset {sent : Bytes} (h : Unended sent) : Ended (sent ++ Frame.control .reset) := by
  obtain ⟨payloads, rfl, hpayloads, hnone⟩ := h
  refine ⟨payloads, ?_, hnone⟩
  have hshort : ∀ p ∈ payloads ++ [resetPayload], p.length ≤ Frame.maxPayload := by
    intro p hp
    rcases List.mem_append.mp hp with hp | hp
    · exact hpayloads p hp
    · rw [List.mem_singleton.mp hp]
      decide
  rw [← Frame.split_encoded hshort]
  simp [Codec.control_eq_encode, resetPayload]

/-! ## Paths -/

structure Footing where
  /-- The port that is bound. -/
  port : Option Nat := none
  /-- The connection that is open. -/
  connection : Option Nat := none
  /-- Whether a card was powered. After its connection ended, nothing is accepted on the port any more. -/
  used : Bool := false
  deriving DecidableEq, Repr

namespace Footing

inductive Step : Footing → NetworkEvent → Footing → Prop where
  | dialled (made : Option Nat) : Step {} (.dialled made) { connection := made }
  | bound (port : Option Nat) : Step {} (.bound port) { port }
  | accepted (port : Nat) (made : Option Nat) :
    Step { port := some port } (.accepted port made) { port := some port, connection := made }
  | givenUp (port : Option Nat) (id : Nat) : Step { port, connection := some id } (.hungUp id []) { port }
  | hungUp (port : Option Nat) (id : Nat) {sent : Bytes} (h : Ended sent) :
    Step { port, connection := some id, used := true } (.hungUp id sent) { port, used := port.isSome }
  | unbound (port : Nat) (used : Bool) : Step { port := some port, used } (.unbound port) {}
  | elsewhere : Step {} .elsewhere {}
  | handedOver (port connection : Option Nat) : Step { port, connection, used := connection.isSome } .handedOver {}

inductive Path : Footing → List NetworkEvent → Footing → Prop where
  | nil (f : Footing) : Path f [] f
  | cons {f g h : Footing} {e : NetworkEvent} {es : List NetworkEvent} (step : Step f e g) (rest : Path g es h) :
    Path f (e :: es) h
  /-- Powering is a write, and no event. -/
  | power {port : Option Nat} {id : Nat} {es : List NetworkEvent} {h : Footing}
    (rest : Path { port, connection := some id, used := true } es h) : Path { port, connection := some id } es h

/-- Nothing is half ended. -/
def Settled (f : Footing) : Prop := f.used = f.connection.isSome

/-- What becomes of a connection on which a card was powered, by what happens and where that leads. -/
inductive Concluded (port : Option Nat) (id : Nat) : List NetworkEvent → Footing → Prop where
  | held (used : Bool) : Concluded port id [] { port, connection := some id, used }
  | ended {sent : Bytes} (h : Ended sent) (rest : List NetworkEvent) (g : Footing) :
    Concluded port id (.hungUp id sent :: (port.toList.map .unbound ++ rest)) g
  | handedOver (rest : List NetworkEvent) (g : Footing) : Concluded port id (.handedOver :: rest) g

/-- What becomes of a bound port: nothing but serving, until it is given back. -/
inductive Served (port : Nat) : List NetworkEvent → Footing → Prop where
  | bound {es : List NetworkEvent} (hon : ∀ e ∈ es, e.OnPort port) {g : Footing} (hport : g.port = some port) :
    Served port es g
  | unbound {es : List NetworkEvent} (hon : ∀ e ∈ es, e.OnPort port) (rest : List NetworkEvent) (g : Footing) :
    Served port (es ++ .unbound port :: rest) g
  | handedOver {es : List NetworkEvent} (hon : ∀ e ∈ es, e.OnPort port) (rest : List NetworkEvent) (g : Footing) :
    Served port (es ++ .handedOver :: rest) g

variable {f g h : Footing} {e : NetworkEvent} {es es' : List NetworkEvent} {id : Nat} {used : Bool}

theorem Path.single (step : Step f e g) : Path f [e] g := .cons step (.nil g)

theorem Path.append (first : Path f es g) (rest : Path g es' h) : Path f (es ++ es') h := by
  induction first with
  | nil f => exact rest
  | cons step _ ih => exact .cons step (ih rest)
  | power _ ih => exact .power (ih rest)

theorem Path.split (path : Path f (es ++ es') h) : ∃ g, Path f es g ∧ Path g es' h := by
  generalize hall : es ++ es' = all at path
  induction path generalizing es with
  | nil f =>
    obtain ⟨rfl, rfl⟩ := List.append_eq_nil_iff.mp hall
    exact ⟨f, .nil f, .nil f⟩
  | @cons f _ _ e _ step rest ih =>
    cases es with
    | nil =>
      cases hall
      exact ⟨f, .nil f, .cons step rest⟩
    | cons e' es =>
      cases hall
      obtain ⟨g, first, rest⟩ := ih rfl
      exact ⟨g, .cons step first, rest⟩
  | power _ ih =>
    obtain ⟨g, first, rest⟩ := ih hall
    exact ⟨g, .power first, rest⟩

theorem Path.uncons (path : Path f (e :: es) h) : ∃ f' g, Step f' e g ∧ Path g es h := by
  generalize hall : e :: es = all at path
  induction path with
  | nil => cases hall
  | cons step rest =>
    cases hall
    exact ⟨_, _, step, rest⟩
  | power _ ih => exact ih hall

theorem Settled.handedOver (hf : f.Settled) : Step f .handedOver {} := by
  obtain ⟨port, connection, used⟩ := f
  obtain rfl : used = connection.isSome := hf
  exact .handedOver port connection

theorem Step.made (step : Step f e g) (hmade : e.made = some id) : g = { port := e.port, connection := some id } := by
  cases step with
  | dialled made =>
    cases made with
    | none => cases hmade
    | some made =>
      cases hmade
      rfl
  | accepted port made =>
    cases made with
    | none => cases hmade
    | some made =>
      cases hmade
      rfl
  | _ => cases hmade

/-- When a connection ended on which a card was powered, the port is given back next. -/
theorem Path.afterwards {port : Option Nat} (path : Path { port, used := port.isSome } es g) (hg : g.Settled) :
    ∃ rest, es = port.toList.map .unbound ++ rest := by
  cases port with
  | none => exact ⟨es, rfl⟩
  | some port =>
    cases path with
    | nil => cases hg
    | cons step rest =>
      cases step with
      | unbound => exact ⟨_, rfl⟩

/-- Nothing happens before an open connection is ended. -/
theorem Path.connected {port : Option Nat} (path : Path { port, connection := some id, used } es g)
    (hg : g.Settled) : Concluded port id es g ∨ used = false ∧ ∃ rest, es = .hungUp id [] :: rest := by
  generalize hf : ({ port, connection := some id, used } : Footing) = f at path
  induction path generalizing used with
  | nil =>
    subst hf
    exact Or.inl (.held used)
  | cons step rest =>
    cases step with
    | givenUp port' id' =>
      cases hf
      exact Or.inr ⟨rfl, _, rfl⟩
    | hungUp port' id' hended =>
      cases hf
      obtain ⟨rest', rfl⟩ := rest.afterwards hg
      exact Or.inl (.ended hended rest' _)
    | handedOver => exact Or.inl (.handedOver _ _)
    | _ => cases hf
  | power _ ih =>
    cases hf
    rcases ih hg rfl with hconcluded | ⟨hused, -⟩
    · exact Or.inl hconcluded
    · cases hused

theorem Step.onPort {port : Nat} (step : Step f e g) (hport : f.port = some port) :
    (e.OnPort port ∧ g.port = some port) ∨ e = .unbound port ∨ e = .handedOver := by
  cases step with
  | dialled made => cases hport
  | bound port => cases hport
  | accepted port' made =>
    cases hport
    exact Or.inl ⟨rfl, rfl⟩
  | givenUp port' id => exact Or.inl ⟨trivial, hport⟩
  | hungUp port' id hended => exact Or.inl ⟨trivial, hport⟩
  | unbound port' =>
    cases hport
    exact Or.inr (Or.inl rfl)
  | elsewhere => cases hport
  | handedOver => exact Or.inr (Or.inr rfl)

theorem Served.cons {port : Nat} (he : e.OnPort port) (h : Served port es g) : Served port (e :: es) g := by
  cases h with
  | bound hon hport => exact .bound (List.forall_mem_cons.mpr ⟨he, hon⟩) hport
  | unbound hon rest => exact .unbound (List.forall_mem_cons.mpr ⟨he, hon⟩) rest g
  | handedOver hon rest => exact .handedOver (List.forall_mem_cons.mpr ⟨he, hon⟩) rest g

/-- A bound port is given back before another is bound or a peer is dialled. -/
theorem Path.served {port : Nat} (path : Path f es g) (hport : f.port = some port) : Served port es g := by
  have hnone : ∀ e ∈ ([] : List NetworkEvent), e.OnPort port := by simp
  induction path with
  | nil f => exact .bound hnone hport
  | cons step _ ih =>
    rcases step.onPort hport with ⟨hon, hport'⟩ | rfl | rfl
    · exact (ih hport').cons hon
    · exact .unbound hnone _ _
    · exact .handedOver hnone _ _
  | power _ ih => exact ih hport

theorem Path.elsewhere (hes : ∀ e ∈ es, e = .elsewhere) : Path {} es {} := by
  induction es with
  | nil => exact .nil _
  | cons e es ih =>
    obtain rfl := hes e List.mem_cons_self
    exact .cons .elsewhere (ih fun e' he' => hes e' (List.mem_cons_of_mem _ he'))

end Footing

/-! ## The network of a world -/

section

variable {W : Type} [Network W] {trace : W → List NetworkEvent}

/-- The world tells what happened on its network. -/
structure Traced (trace : W → List NetworkEvent) : Prop where
  resolve : ∀ host port w, trace (Network.resolve host port w).2 = trace w
  dial : ∀ address deadline w, trace (Network.dial address deadline w).2 =
    trace w ++ [.dialled ((Network.dial address deadline w).1.toOption.map Connection.id)]
  bind : ∀ port w, trace (Network.bind port w).2 = trace w ++ [.bound (Network.bind port w).1.toOption]
  accept : ∀ port deadline w, trace (Network.accept port deadline w).2 =
    trace w ++ [.accepted port ((Network.accept port deadline w).1.toOption.map Connection.id)]
  hangUp : ∀ id codec w, trace (Network.hangUp id codec w) = trace w ++ [.hungUp id codec.sink.accepted]
  unbind : ∀ port w, trace (Network.unbind port w) = trace w ++ [.unbound port]

/-- Nothing was written on the connection, and all that will be is taken. -/
def Connection.Fresh (connection : Connection) : Prop :=
  connection.sink.TakesAll ∧ connection.sink.accepted = []

structure PeersTakeAll (W : Type) [Network W] : Prop where
  dial : ∀ address deadline (w : W) connection,
    (Network.dial address deadline w).1 = .ok connection → connection.Fresh
  accept : ∀ port deadline (w : W) connection,
    (Network.accept port deadline w).1 = .ok connection → connection.Fresh

/-- What happened between two worlds leads from one footing to the other. -/
def Moves (trace : W → List NetworkEvent) (f : Footing) (w : W) (g : Footing) (w' : W) : Prop :=
  ∃ events, trace w' = trace w ++ events ∧ Footing.Path f events g

variable {f g h : Footing} {w w' w'' : W}

omit [Network W] in
theorem Moves.quiet (hw : trace w' = trace w) (f : Footing) : Moves trace f w f w' :=
  ⟨[], by rw [hw, List.append_nil], .nil f⟩

omit [Network W] in
theorem Moves.step {e : NetworkEvent} (hw : trace w' = trace w ++ [e]) (step : Footing.Step f e g) :
    Moves trace f w g w' :=
  ⟨[e], hw, .single step⟩

omit [Network W] in
theorem Moves.trans (first : Moves trace f w g w') (rest : Moves trace g w' h w'') : Moves trace f w h w'' := by
  obtain ⟨events, hw, hpath⟩ := first
  obtain ⟨events', hw', hpath'⟩ := rest
  exact ⟨events ++ events', by rw [hw', hw, List.append_assoc], hpath.append hpath'⟩

theorem listen_moves (htraced : Traced trace) (port : Nat) (bound : Option Nat) (w : W) :
    Moves trace { port := bound } w { port := (listen port bound w).1.toOption } (listen port bound w).2 := by
  cases bound with
  | some port => exact .quiet rfl _
  | none =>
    have hbind := Moves.step (htraced.bind port w) (.bound _)
    unfold listen
    rcases heq : Network.bind port w with ⟨e | port', w'⟩
    · rw [heq] at hbind
      exact hbind
    · rw [heq] at hbind
      exact hbind

theorem accept_moves (htraced : Traced trace) (port : Nat) (bound deadline : Option Nat) (cancelled : Bool) (w : W) :
    Moves trace { port := bound } w
      { port := (accept port bound deadline cancelled w).2.1
        connection := (accept port bound deadline cancelled w).1.toOption.map Connection.id }
      (accept port bound deadline cancelled w).2.2 := by
  have hlisten := listen_moves htraced port bound w
  unfold accept
  rcases heq : listen port bound w with ⟨e | port', w'⟩
  · rw [heq] at hlisten
    exact hlisten
  · rw [heq] at hlisten
    cases cancelled with
    | true => exact hlisten
    | false => exact hlisten.trans (.step (htraced.accept port' deadline w') (.accepted _ _))

theorem dialAny_moves (htraced : Traced trace) (host : String) (port : Nat) (deadline : Option Nat) (cancelled : Bool)
    (last : Option IoError) (addresses : List Address) (w : W) :
    Moves trace {} w
      { connection := (dialAny host port deadline cancelled last addresses w).1.toOption.map Connection.id }
      (dialAny host port deadline cancelled last addresses w).2 := by
  induction addresses generalizing last w with
  | nil => exact .quiet rfl _
  | cons address rest ih =>
    have hdial := Moves.step (htraced.dial address deadline w) (.dialled _)
    cases cancelled with
    | true => exact .quiet rfl _
    | false =>
      unfold dialAny
      simp only [Bool.false_eq_true, if_false]
      rcases heq : Network.dial address deadline w with ⟨e | connection, w'⟩
      · rw [heq] at hdial
        exact hdial.trans (ih (some e) w')
      · rw [heq] at hdial
        exact hdial

theorem connect_moves (htraced : Traced trace) {config : Config} {bound : Option Nat}
    (hdialling : config.host ≠ none → bound = none) (cancelled : Bool) (w : W) :
    Moves trace { port := bound } w
      { port := (connect config bound cancelled w).2.1
        connection := (connect config bound cancelled w).1.toOption.map Connection.id }
      (connect config bound cancelled w).2.2 := by
  unfold connect
  split
  · next host hhost =>
    obtain rfl := hdialling (by rw [hhost]; simp)
    have hresolve := htraced.resolve host config.port w
    unfold dial
    rcases heq : Network.resolve host config.port w with ⟨reason | addresses, w'⟩
    · rw [heq] at hresolve
      exact .quiet hresolve _
    · rw [heq] at hresolve
      exact (Moves.quiet hresolve _).trans (dialAny_moves htraced _ _ _ _ _ _ _)
  · exact accept_moves htraced _ _ _ _ _

theorem dialAny_fresh (hpeers : PeersTakeAll W) {host : String} {port : Nat} {deadline : Option Nat}
    {cancelled : Bool} {last : Option IoError} {addresses : List Address} {w : W} {connection : Connection}
    (hmade : (dialAny host port deadline cancelled last addresses w).1 = .ok connection) : connection.Fresh := by
  induction addresses generalizing last w with
  | nil => cases hmade
  | cons address rest ih =>
    cases cancelled with
    | true => cases hmade
    | false =>
      unfold dialAny at hmade
      simp only [Bool.false_eq_true, if_false] at hmade
      rcases heq : Network.dial address deadline w with ⟨e | connection', w'⟩
      · rw [heq] at hmade
        exact ih hmade
      · have hfresh := hpeers.dial address deadline w connection' (by rw [heq])
        rw [heq] at hmade
        cases hmade
        exact hfresh

theorem connect_fresh (hpeers : PeersTakeAll W) {config : Config} {bound : Option Nat} {cancelled : Bool} {w : W}
    {connection : Connection} (hmade : (connect config bound cancelled w).1 = .ok connection) : connection.Fresh := by
  unfold connect at hmade
  split at hmade
  · unfold dial at hmade
    rcases heq : Network.resolve _ config.port w with ⟨reason | addresses, w'⟩
    · rw [heq] at hmade
      cases hmade
    · rw [heq] at hmade
      exact dialAny_fresh hpeers hmade
  · unfold accept at hmade
    rcases heq : listen config.port bound w with ⟨e | port, w'⟩
    · rw [heq] at hmade
      cases hmade
    · rw [heq] at hmade
      cases cancelled with
      | true => cases hmade
      | false => exact hpeers.accept port _ w' connection hmade

/-- A connection that is given up at once was not written on. -/
theorem establish_moves (htraced : Traced trace) (hpeers : PeersTakeAll W) {config : Config} {bound : Option Nat}
    (hdialling : config.host ≠ none → bound = none) (cancelled : Bool) (w : W) :
    Moves trace { port := bound } w
      { port := (establish config bound cancelled w).2.1
        connection := (establish config bound cancelled w).1.toOption.map Link.id }
      (establish config bound cancelled w).2.2 := by
  have hconnect := connect_moves htraced hdialling cancelled w
  unfold establish
  rcases heq : connect config bound cancelled w with ⟨e | connection, bound', w'⟩
  · rw [heq] at hconnect
    exact hconnect
  · have hconnected : (connect config bound cancelled w).1 = .ok connection := by rw [heq]
    have hfresh := connect_fresh hpeers hconnected
    rw [heq] at hconnect
    simp only
    split
    · have hnothing : (connection.codec config).sink.accepted = [] := hfresh.2
      have hgivenUp := htraced.hangUp connection.id (connection.codec config) w'
      rw [hnothing] at hgivenUp
      exact hconnect.trans (.step hgivenUp (.givenUp _ _))
    · exact hconnect

theorem establish_fresh (hpeers : PeersTakeAll W) {config : Config} {bound : Option Nat} {cancelled : Bool} {w : W}
    {link : Link} (hmade : (establish config bound cancelled w).1 = .ok link) :
    link.codec.sink.TakesAll ∧ link.codec.sink.accepted = [] := by
  unfold establish at hmade
  rcases heq : connect config bound cancelled w with ⟨e | connection, bound', w'⟩
  · rw [heq] at hmade
    cases hmade
  · have hconnected : (connect config bound cancelled w).1 = .ok connection := by rw [heq]
    have hfresh := connect_fresh hpeers hconnected
    rw [heq] at hmade
    simp only at hmade
    split at hmade
    · cases hmade
    · cases hmade
      exact hfresh

theorem establish_bound {config : Config} {bound : Option Nat} (hhost : config.host ≠ none) (hbound : bound = none)
    (cancelled : Bool) (w : W) : (establish config bound cancelled w).2.1 = none := by
  obtain ⟨host, hhost⟩ := Option.ne_none_iff_exists'.mp hhost
  have hconnect : (connect config bound cancelled w).2.1 = none := by
    unfold connect
    rw [hhost]
    exact hbound
  unfold establish
  rcases heq : connect config bound cancelled w with ⟨e | connection, bound', w'⟩
  · rw [heq] at hconnect
    exact hconnect
  · rw [heq] at hconnect
    simp only
    split
    · exact hconnect
    · exact hconnect

/-! ## Sessions -/

namespace Session

def footing (s : Session) : Footing where
  port := s.bound
  connection := s.link.map Link.id
  used := s.link.isSome

theorem footing_settled (s : Session) : s.footing.Settled := by
  cases hlink : s.link <;> simp [footing, Footing.Settled, hlink]

/-- What stays true of a session: closed, it has nothing; its connection takes all and was not ended; and a
session that dials binds no port. -/
structure Neat (s : Session) : Prop where
  shut : s.closed = true → s.link = none ∧ s.bound = none
  link : ∀ link, s.link = some link → link.codec.sink.TakesAll ∧ Unended link.codec.sink.accepted
  dialling : s.config.host ≠ none → s.bound = none

/-- What a call keeps and does to the network. -/
structure Keeps (trace : W → List NetworkEvent) (s : Session) (w : W) (s' : Session) (w' : W) : Prop where
  neat : s'.Neat
  moves : Moves trace s.footing w s'.footing w'

variable {s : Session}

theorem neat_new (config : Config) : ({ config } : Session).Neat :=
  ⟨by simp, by simp, by simp⟩

theorem establish_keeps (htraced : Traced trace) (hpeers : PeersTakeAll W) (hs : s.Neat) (hopen : s.closed = false)
    (hlink : s.link = none) (w : W) : Keeps trace s w (s.establish w).2.1 (s.establish w).2.2 := by
  have hmoves := VirtualCard.establish_moves htraced hpeers hs.dialling s.cancelled w
  have hfooting : s.footing = { port := s.bound } := by rw [footing, hlink, Option.map_none, Option.isSome_none]
  rw [← hfooting] at hmoves
  have hdialling : s.config.host ≠ none → (VirtualCard.establish s.config s.bound s.cancelled w).2.1 = none :=
    fun hhost => establish_bound hhost (hs.dialling hhost) s.cancelled w
  have hstays : ∀ bound, ({ s with bound } : Session).closed = true → s.link = none ∧ bound = none := by
    intro bound hclosed
    rw [show s.closed = true from hclosed] at hopen
    cases hopen
  unfold Session.establish
  rcases heq : VirtualCard.establish s.config s.bound s.cancelled w with ⟨e | link, bound, w'⟩
  · rw [heq] at hmoves hdialling
    refine ⟨⟨hstays bound, hs.link, hdialling⟩, ?_⟩
    have hfooting' : ({ s with bound } : Session).footing = { port := bound } := by
      rw [footing, hlink, Option.map_none, Option.isSome_none]
    rw [hfooting']
    exact hmoves
  · have hestablished : (VirtualCard.establish s.config s.bound s.cancelled w).1 = .ok link := by rw [heq]
    obtain ⟨htakes, hempty⟩ := establish_fresh hpeers hestablished
    rw [heq] at hmoves hdialling
    obtain ⟨c, hwrite, hwrote⟩ := Codec.writeCommand_takesAll htakes .powerOn
    simp only [hwrite]
    refine ⟨⟨?_, ?_, hdialling⟩, hmoves.trans ⟨[], (List.append_nil _).symm, .power (.nil _)⟩⟩
    · intro hclosed
      rw [show s.closed = true from hclosed] at hopen
      cases hopen
    · intro link' hlink'
      cases hlink'
      refine ⟨hwrote.takesAll, ?_⟩
      rw [hwrote.accepted, hempty]
      exact unended_powerOn

omit [Network W] in
theorem Keeps.quiet (hs : s.Neat) (hw : trace w' = trace w) : Keeps trace s w s w' := ⟨hs, .quiet hw _⟩

theorem open_keeps (htraced : Traced trace) (hpeers : PeersTakeAll W) (hs : s.Neat) (w : W) :
    Keeps trace s w (s.open? w).2.1 (s.open? w).2.2 := by
  by_cases hclosed : s.closed = true
  · simp only [open?, hclosed, if_true]
    exact .quiet hs rfl
  · have hopen : s.closed = false := Bool.eq_false_iff.mpr hclosed
    cases hlink : s.link with
    | none =>
      simp only [open?, hopen, hlink]
      exact establish_keeps htraced hpeers hs hopen hlink w
    | some link =>
      simp only [open?, hopen, hlink]
      exact .quiet hs rfl

theorem open_link {link : Link} {s' : Session} (hopen : s.open? w = (.ok link, s', w')) :
    s'.closed = false ∧ s'.link = some link := by
  unfold open? at hopen
  split at hopen
  · cases hopen
  · next hclosed =>
    have hfalse : s.closed = false := Bool.eq_false_iff.mpr hclosed
    split at hopen
    · next hlink =>
      cases hopen
      exact ⟨hfalse, hlink⟩
    · unfold Session.establish at hopen
      split at hopen
      · cases hopen
      · split at hopen
        · cases hopen
        · cases hopen
          exact ⟨hfalse, rfl⟩

theorem call_keeps (htraced : Traced trace) (hpeers : PeersTakeAll W) (hs : s.Neat) (call : CardCall) (w : W) :
    Keeps trace s w (call.perform s w).2.1 (call.perform s w).2.2 := by
  have hkeeps := open_keeps htraced hpeers hs w
  rcases hopen : s.open? w with ⟨e | link, s', w'⟩
  · rw [hopen] at hkeeps
    rw [CardCall.perform_of_refused hopen]
    exact hkeeps
  · rw [hopen] at hkeeps
    obtain ⟨hclosed, hlink⟩ := open_link hopen
    obtain ⟨htakes, hunended⟩ := hkeeps.neat.link link hlink
    obtain ⟨htakes', haccepted⟩ := call.exchange_sends htakes
    rw [CardCall.perform_of_open hopen]
    refine ⟨⟨?_, ?_, hkeeps.neat.dialling⟩, ?_⟩
    · intro hclosed'
      rw [show s'.closed = true from hclosed'] at hclosed
      cases hclosed
    · intro link' hlink'
      cases hlink'
      refine ⟨htakes', ?_⟩
      rw [haccepted]
      exact hunended.call call
    · have hfooting : (s'.withCodec link (exchange call.write link.codec).2).footing = s'.footing := by
        rw [footing, footing, hlink]
        rfl
      rw [hfooting]
      exact hkeeps.moves

theorem giveBack_moves (htraced : Traced trace) (bound : Option Nat) (used : Bool) (w : W) :
    (bound = none → used = false) →
      Moves trace { port := bound, used } w {} (match bound with | none => w | some port => Network.unbind port w) := by
  intro hused
  cases bound with
  | none =>
    rw [hused rfl]
    exact .quiet rfl _
  | some port => exact .step (htraced.unbind port w) (.unbound port used)

/-- Closing ends the connection with a reset and gives the port back. -/
theorem shut_keeps (htraced : Traced trace) (hs : s.Neat) (w : W) :
    Keeps trace s w (s.shut w).1 (s.shut w).2 ∧ (s.shut w).1.footing = {} := by
  by_cases hclosed : s.closed = true
  · obtain ⟨hlink, hbound⟩ := hs.shut hclosed
    simp only [shut, hclosed, if_true]
    exact ⟨.quiet hs rfl, by rw [footing, hlink, hbound, Option.map_none, Option.isSome_none]⟩
  · have hneat : ({ s with closed := true, link := none, bound := none } : Session).Neat :=
      ⟨fun _ => ⟨rfl, rfl⟩, by simp, fun _ => rfl⟩
    refine ⟨⟨?_, ?_⟩, ?_⟩
    · simp only [shut, hclosed]
      exact hneat
    · cases hlink : s.link with
      | none =>
        have hfooting : s.footing = { port := s.bound } := by rw [footing, hlink, Option.map_none, Option.isSome_none]
        rw [hfooting]
        simp only [shut, hclosed, hlink]
        exact giveBack_moves htraced s.bound false w fun _ => rfl
      | some link =>
        obtain ⟨htakes, hunended⟩ := hs.link link hlink
        obtain ⟨c, hwrite, hwrote⟩ := Codec.writeCommand_takesAll htakes .reset
        have hended : Ended c.sink.accepted := by
          rw [hwrote.accepted]
          exact hunended.reset
        have hfooting : s.footing = { port := s.bound, connection := some link.id, used := true } := by
          rw [footing, hlink, Option.map_some, Option.isSome_some]
        rw [hfooting]
        simp only [shut, hclosed, hlink, hwrite]
        refine (Moves.step (htraced.hangUp link.id c w) (.hungUp s.bound link.id hended)).trans ?_
        exact giveBack_moves htraced s.bound _ _ fun hbound => by rw [hbound, Option.isSome_none]
    · simp only [shut, hclosed]
      rfl

theorem request_keeps (htraced : Traced trace) (hpeers : PeersTakeAll W) (hs : s.Neat) (r : ChannelRequest) (w : W) :
    Keeps trace s w (r.perform s w).2.1 (r.perform s w).2.2 := by
  have hperform : (SessionCall.request r).perform s w = r.perform s w := rfl
  rw [← hperform]
  cases hasks : (SessionCall.request r).asks with
  | some call =>
    rw [SessionCall.perform_asks hasks]
    exact call_keeps htraced hpeers hs call w
  | none =>
    by_cases hends : (SessionCall.request r).ends = true
    · rw [SessionCall.perform_ends hends]
      exact (shut_keeps htraced hs w).1
    · rw [SessionCall.perform_quiet hasks (Bool.eq_false_iff.mpr hends)]
      exact .quiet hs rfl

end Session

end

end CardLink.VirtualCard
