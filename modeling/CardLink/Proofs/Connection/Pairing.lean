import CardLink.Connection.Manager
import CardLink.Proofs.VirtualCard.Lag

/-!
# Whose answer a manager gives

A manager over a virtual card writes one request for each exchange and reads one answer. Only `transmit`
looks at the state, and a failed ATR request leaves the state alone, so a manager goes on using a
connection on which a request timed out. From then on every answer is the one to an earlier request. Until
the first failure on the connection every answer is the one to its own request.
-/

namespace CardLink

open VirtualCard

/-- The session that a backend is, if it is one. -/
def backendSession {κ : Type} : Backend κ → Option Session := Sum.elim some fun _ => none

/-- The failure of the channel in the failure of a manager. -/
def cause : Option ConnectionError → Option ChannelError
  | some (.card e) => some e
  | _ => none

namespace Manager

variable {W κ ς : Type}

/-- The connection of the session that is held. -/
def link (m : Manager W κ ς) : Option Link :=
  (m.channel.bind fun n => backendSession n.inner).bind (·.link)

/-- The manager holds a session whose answers lag that far, or nothing. -/
def Behind (peers : Nat → Nat → Bytes) (lag : Option Nat) (m : Manager W κ ς) : Prop :=
  match m.channel with
  | none => lag = some 0
  | some n => ∃ s, backendSession n.inner = some s ∧ s.Behind peers lag

/-- What a manager answers is what the peer answered so many requests before the last one. -/
structure Answered (peers : Nat → Nat → Bytes) (lag : Option Nat)
    (outcome : Except ConnectionError Answer) (m : Manager W κ ς) : Prop where
  behind : m.Behind peers (lagAfter (cause (failureOf outcome)) m.link lag)
  paired : ∀ answer n, outcome = .ok answer → lag = some n →
    ∃ link, m.link = some link ∧ n < link.asked ∧
      answerBytes answer = peers link.id (link.asked - 1 - n)

variable {peers : Nat → Nat → Bytes} {lag : Option Nat} {m : Manager W κ ς}

theorem Behind.keeps {failure : Option ChannelError} (hm : m.Behind peers lag)
    (h : ∀ link lag, lagAfter failure (some link) lag = lag) :
    m.Behind peers (lagAfter failure m.link lag) := by
  unfold Behind link at *
  cases hch : m.channel with
  | none => rfl
  | some n =>
    rw [hch] at hm
    obtain ⟨s, hs, hb⟩ := hm
    refine ⟨s, hs, ?_⟩
    have := hb.keeps h
    simpa [hs] using this

theorem Behind.refuses {e : ConnectionError} (hm : m.Behind peers lag) (h : cause (some e) = none) :
    Answered peers lag (.error e) m := by
  refine ⟨?_, ?_⟩
  · rw [failureOf, h]
    exact hm.keeps fun _ _ => rfl
  · intro answer n hok
    cases hok

/-- A manager that holds what the channel became after a call answers what the channel answers. -/
theorem answered_of_channel {outcome : Except ChannelError Answer} {n : Normalized (Backend κ)}
    {s : Session} (hch : m.channel = some n) (hs : backendSession n.inner = some s)
    (h : Session.Answered peers lag outcome s) : Answered peers lag (outcome.mapError .card) m := by
  have hlink : m.link = s.link := by simp [link, hch, hs]
  have hcause : cause (failureOf (outcome.mapError .card)) = failureOf outcome := by
    cases outcome <;> rfl
  refine ⟨?_, ?_⟩
  · unfold Behind
    rw [hch, hcause, hlink]
    exact ⟨s, hs, h.behind⟩
  · intro answer k hok hlag
    rw [hlink]
    refine h.paired answer k ?_ hlag
    cases outcome with
    | error e => cases hok
    | ok a =>
      cases hok
      rfl

variable [ChannelTraits κ] [CardChannel W κ] [Network W] [Host W]

theorem tracks_backend (hnet : Answering peers W) :
    Tracks W peers fun n : Normalized (Backend κ) => backendSession n.inner :=
  tracks_normalized (tracks_inl (tracks_session hnet))

/-- A call on the held channel is answered as the session inside answers it. -/
theorem call_answered (hnet : Answering peers W) (hm : m.Behind peers lag)
    {n : Normalized (Backend κ)} (hch : m.channel = some n) (call : CardCall) (w : W)
    (after : Manager W κ ς) (hafter : after.channel = some (call.perform n w).2.1) :
    Answered peers lag ((call.perform n w).1.mapError .card) after := by
  unfold Behind at hm
  rw [hch] at hm
  obtain ⟨s, hs, hb⟩ := hm
  obtain ⟨s', hs', hanswered⟩ := tracks_backend hnet call n w lag s hs hb
  exact answered_of_channel hafter hs' hanswered

theorem send_answered (hnet : Answering peers W) (hm : m.Behind peers lag) (command : Command) (w : W) :
    Answered peers lag ((m.send command w).1.map .response) (m.send command w).2.1 := by
  cases hch : m.channel with
  | none =>
    simp only [send, hch]
    exact hm.refuses rfl
  | some n =>
    have hcall := call_answered hnet hm hch (.transmit command) w
    rcases htr : CardChannel.transmit command n w with ⟨result, n', w'⟩
    simp only [CardCall.perform, Outcome.map, htr] at hcall
    simp only [send, hch, htr]
    cases result with
    | error e => exact hcall _ rfl
    | ok response => exact hcall _ rfl

theorem atr_answered (hnet : Answering peers W) (hm : m.Behind peers lag) (w : W) :
    Answered peers lag ((m.atr w).1.map .atr) (m.atr w).2.1 := by
  cases hch : m.channel with
  | none =>
    simp only [atr, withChannel, hch]
    exact hm.refuses rfl
  | some n =>
    have hcall := call_answered hnet hm hch .atr w
    rcases hatr : CardChannel.atr n w with ⟨result, n', w'⟩
    simp only [CardCall.perform, Outcome.map, hatr] at hcall
    simp only [atr, withChannel, hch, hatr]
    cases result with
    | error e => exact hcall _ rfl
    | ok a => exact hcall _ rfl

/-- Selecting is sending, whatever the state. -/
theorem selectApplet_answered (hnet : Answering peers W) (hm : m.Behind peers lag) (w : W) :
    Answered peers lag ((m.selectApplet w).1.map .response) (m.selectApplet w).2.1 := by
  cases haid : m.aid with
  | none =>
    simp only [selectApplet, haid]
    exact hm.refuses rfl
  | some aid =>
    simp only [selectApplet, haid]
    exact send_answered hnet hm (.selectAid aid) w

theorem transmit_answered (hnet : Answering peers W) (hm : m.Behind peers lag) (command : Command)
    (w : W) : Answered peers lag ((m.transmit command w).1.map .response) (m.transmit command w).2.1 := by
  by_cases hstate : m.state = .connected
  · rw [transmit, if_pos hstate]
    exact send_answered hnet hm command w
  · rw [transmit, if_neg hstate]
    exact hm.refuses rfl

omit [ChannelTraits κ] [CardChannel W κ] [Network W] [Host W] in
theorem failureOf_map {α β : Type} (f : α → β) (outcome : Except ConnectionError α) :
    failureOf (outcome.map f) = failureOf outcome := by
  cases outcome <;> rfl

omit [ChannelTraits κ] [CardChannel W κ] [Network W] [Host W] in
/-- What an exchange leaves behind, whatever else changes but the channel. -/
theorem Answered.behind_of {α : Type} {f : α → Answer} {outcome : Except ConnectionError α}
    {m m' : Manager W κ ς} (h : Answered peers lag (outcome.map f) m) (hch : m'.channel = m.channel) :
    m'.Behind peers (lagAfter (cause (failureOf outcome)) m'.link lag) := by
  have hb := h.behind
  rw [failureOf_map] at hb
  unfold Behind link at *
  rw [hch]
  exact hb

theorem selectIfConfigured_behind (hnet : Answering peers W) (hm : m.Behind peers lag) (w : W) :
    (m.selectIfConfigured w).2.1.Behind peers
      (lagAfter (cause (failureOf (m.selectIfConfigured w).1)) (m.selectIfConfigured w).2.1.link lag) := by
  have hselect := selectApplet_answered hnet hm w
  unfold selectIfConfigured
  split
  · exact hm.keeps fun _ _ => rfl
  · rcases h : m.selectApplet w with ⟨outcome, m', w'⟩
    rw [h] at hselect
    cases outcome with
    | error e => exact hselect.behind_of rfl
    | ok response => exact hselect.behind_of rfl

/-- A session that was just adopted has no connection, so its answers do not lag. -/
theorem adoptAndSelect_behind (hnet : Answering peers W) (config : Config) (doSelect : Bool)
    (m : Manager W κ ς) (w : W) :
    (m.adoptAndSelect (.inl { config }) doSelect w).2.1.Behind peers
      (lagAfter (cause (failureOf (m.adoptAndSelect (.inl { config }) doSelect w).1))
        (m.adoptAndSelect (.inl { config }) doSelect w).2.1.link (some 0)) := by
  have hadopt : m.adopt (.inl { config }) w =
      (.ok (), { m with channel := some { inner := .inl { config }, options := m.options } },
        m.releaseHeld w) := rfl
  have hfresh : { m with
      channel := some { inner := .inl { config }, options := m.options } }.Behind peers (some 0) :=
    ⟨{ config }, rfl, rfl⟩
  simp only [adoptAndSelect, hadopt]
  split
  · have hselect := selectIfConfigured_behind hnet hfresh (m.releaseHeld w)
    rcases h : selectIfConfigured { m with
      channel := some { inner := .inl { config }, options := m.options } } (m.releaseHeld w)
      with ⟨outcome, m', w'⟩
    rw [h] at hselect
    cases outcome with
    | error e => exact hselect
    | ok _ => exact hselect
  · exact hfresh

theorem connect_behind [CardSimulator W ς κ] (hnet : Answering peers W) {settings : Settings}
    (hkind : settings.kind = .virtualCard) (m : Manager W κ ς) (w : W) :
    (m.connect settings w).2.1.Behind peers
      (lagAfter (cause (failureOf (m.connect settings w).1)) (m.connect settings w).2.1.link (some 0)) := by
  rcases hp : m.prepare settings w with ⟨m₁, w₁⟩
  have hopen : m₁.openCard settings w₁ = m₁.adoptAndSelect (.inl { config := settings.virtualCard })
      (m₁.doSelect && settings.doSelect) w₁ := by
    simp only [openCard, hkind]
  have hadopt := adoptAndSelect_behind hnet settings.virtualCard (m₁.doSelect && settings.doSelect) m₁ w₁
  rw [← hopen] at hadopt
  rcases h : m₁.openCard settings w₁ with ⟨outcome, m', w'⟩
  rw [h] at hadopt
  simp only [connect, hp, h]
  cases outcome with
  | error e => exact hadopt
  | ok found => exact hadopt

end Manager

namespace ManagerRequest

variable {W κ ς : Type}

/-- The calls of a client that connects to virtual cards only. -/
def IsCardCall : ManagerRequest W κ ς → Prop
  | .connect settings => settings.kind = .virtualCard
  | .transmit _ | .selectApplet | .atr | .reset | .disconnect _ | .setAid _ | .setDoSelect _ => True
  | _ => False

/-- The calls that give the answer to a request. -/
def Asks : ManagerRequest W κ ς → Prop
  | .transmit _ | .selectApplet | .atr | .reset => True
  | _ => False

/-- How far the answers lag after a call. A new session starts without a lag. -/
def lagAfter (request : ManagerRequest W κ ς) (outcome : Except ConnectionError (ManagerAnswer κ))
    (m : Manager W κ ς) (lag : Option Nat) : Option Nat :=
  VirtualCard.lagAfter (cause (failureOf outcome)) m.link
    (match request with | .connect _ => some 0 | _ => lag)

variable [ChannelTraits κ] [CardChannel W κ] [Network W] [Host W] [CardSimulator W ς κ]

def lagAlong (m : Manager W κ ς) (w : W) (lag : Option Nat) : List (ManagerRequest W κ ς) → Option Nat
  | [] => lag
  | request :: requests =>
    let (outcome, m, w) := request.perform m w
    lagAlong m w (request.lagAfter outcome m lag) requests

variable {peers : Nat → Nat → Bytes} {lag : Option Nat} {m : Manager W κ ς}
  {request : ManagerRequest W κ ς} {requests : List (ManagerRequest W κ ς)}

theorem perform_behind (hnet : Answering peers W) (hr : request.IsCardCall) (hm : m.Behind peers lag)
    (w : W) :
    (request.perform m w).2.1.Behind peers
      (request.lagAfter (request.perform m w).1 (request.perform m w).2.1 lag) := by
  cases request with
  | connect settings =>
    have h := Manager.connect_behind hnet hr m w
    rw [← Manager.failureOf_map (fun found => ManagerAnswer.plain (.flag found))] at h
    exact h
  | transmit command =>
    have h := (Manager.transmit_answered hnet hm command w).behind_of rfl
    rw [← Manager.failureOf_map (fun r => ManagerAnswer.plain (.response r))] at h
    exact h
  | selectApplet =>
    have h := (Manager.selectApplet_answered hnet hm w).behind_of rfl
    rw [← Manager.failureOf_map (fun r => ManagerAnswer.plain (.response r))] at h
    exact h
  | atr =>
    have h := (Manager.atr_answered hnet hm w).behind_of rfl
    rw [← Manager.failureOf_map (fun a => ManagerAnswer.plain (.atr a))] at h
    exact h
  | reset =>
    have h := (Manager.atr_answered hnet hm w).behind_of rfl
    rw [← Manager.failureOf_map (fun a => ManagerAnswer.plain (.atr a))] at h
    exact h
  | disconnect reset =>
    simp only [perform, Managed.map, Manager.disconnect]
    cases hch : m.channel with
    | none => rfl
    | some n => rfl
  | setAid aid => exact hm.keeps fun _ _ => rfl
  | setDoSelect doSelect => exact hm.keeps fun _ _ => rfl
  | _ => exact hr.elim

/-- By induction on the calls: each leaves the answers as far behind as `lagAfter` tells. -/
theorem run_behind (hnet : Answering peers W) (hr : ∀ r ∈ requests, r.IsCardCall)
    (hm : m.Behind peers lag) (w : W) :
    (m.run w requests).1.Behind peers (lagAlong m w lag requests) := by
  induction requests generalizing m w lag with
  | nil => exact hm
  | cons request requests ih =>
    have hstep := perform_behind hnet (hr request List.mem_cons_self) hm w
    rw [Manager.run, lagAlong]
    exact ih (fun r hmem => hr r (List.mem_cons_of_mem _ hmem)) hstep _

omit [ChannelTraits κ] [CardChannel W κ] [Network W] [Host W] [CardSimulator W ς κ] in
theorem ok_of_map_plain {α : Type} {f : α → Answer} {outcome : Except ConnectionError α} {answer : Answer}
    (h : outcome.map (fun a => (.plain (f a) : ManagerAnswer κ)) = .ok (.plain answer)) :
    outcome.map f = .ok answer := by
  cases outcome with
  | error e => cases h
  | ok a =>
    cases h
    rfl

theorem perform_paired (hnet : Answering peers W) (hr : request.Asks) (hm : m.Behind peers lag)
    {w : W} {answer : Answer} {n : Nat} (hok : (request.perform m w).1 = .ok (.plain answer))
    (hlag : lag = some n) :
    ∃ link, (request.perform m w).2.1.link = some link ∧ n < link.asked ∧
      answerBytes answer = peers link.id (link.asked - 1 - n) := by
  cases request with
  | transmit command =>
    exact (Manager.transmit_answered hnet hm command w).paired answer n (ok_of_map_plain hok) hlag
  | selectApplet =>
    exact (Manager.selectApplet_answered hnet hm w).paired answer n (ok_of_map_plain hok) hlag
  | atr => exact (Manager.atr_answered hnet hm w).paired answer n (ok_of_map_plain hok) hlag
  | reset => exact (Manager.atr_answered hnet hm w).paired answer n (ok_of_map_plain hok) hlag
  | _ => exact hr.elim

/-- An answer is the peer's answer to the request that is as many requests old as timed out on the connection
before. So, from a peer that never answers the same twice, it is its own request's exactly if none did. -/
theorem run_answers_lag (hnet : Answering peers W) (m : Manager W κ ς) (w : W)
    (before : List (ManagerRequest W κ ς)) (request : ManagerRequest W κ ς) {answer : Answer} {n : Nat}
    (hm : m.channel = none) (hr : ∀ r ∈ before, r.IsCardCall) (hasks : request.Asks)
    (hok : (request.perform (m.run w before).1 (m.run w before).2).1 = .ok (.plain answer))
    (hlag : lagAlong m w (some 0) before = some n) :
    ∃ link, (request.perform (m.run w before).1 (m.run w before).2).2.1.link = some link ∧
      n < link.asked ∧ answerBytes answer = peers link.id (link.asked - 1 - n) ∧
      (Function.Injective (peers link.id) →
        (answerBytes answer = peers link.id (link.asked - 1) ↔ n = 0)) := by
  have hempty : m.Behind peers (some 0) := by simp [Manager.Behind, hm]
  have hbehind := run_behind hnet hr hempty w
  obtain ⟨link, hlink, hlt, hanswer⟩ := perform_paired hnet hasks hbehind hok hlag
  refine ⟨link, hlink, hlt, hanswer, ?_⟩
  intro hinjective
  constructor
  · intro hown
    have := hinjective (hanswer.symm.trans hown)
    omega
  · rintro rfl
    exact hanswer

/-- Every answer that the calls give is the peer's answer to the request it is given for. -/
def AnswersPaired (peers : Nat → Nat → Bytes) (m : Manager W κ ς) (w : W)
    (requests : List (ManagerRequest W κ ς)) : Prop :=
  ∀ before request after, requests = before ++ request :: after → request.Asks →
    ∀ answer, (request.perform (m.run w before).1 (m.run w before).2).1 = .ok (.plain answer) →
      ∃ link, (request.perform (m.run w before).1 (m.run w before).2).2.1.link = some link ∧
        answerBytes answer = peers link.id (link.asked - 1)

/-- An ATR request that meets the deadline, and the exchange after it. -/
def lateCalls : List (ManagerRequest (OnePeer latePeer) Empty Empty) :=
  [.connect { kind := .virtualCard, doSelect := false }, .atr,
    .transmit ⟨0x00, 0xB0, 0x00, 0x00, none, none⟩]

theorem lateCalls_isCardCall : ∀ r ∈ lateCalls, r.IsCardCall := by
  intro r hmem
  simp only [lateCalls, List.mem_cons, List.not_mem_nil, or_false] at hmem
  rcases hmem with rfl | rfl | rfl
  · rfl
  · trivial
  · trivial

/-- The exchange is answered with the ATR that comes late. -/
theorem late_atr_answers_transmit :
    Answering (fun _ => lateAnswers) (OnePeer latePeer) ∧ (∀ r ∈ lateCalls, r.IsCardCall) ∧
      ¬ AnswersPaired (fun _ => lateAnswers) ({} : Manager (OnePeer latePeer) Empty Empty) ⟨⟩
        lateCalls := by
  refine ⟨latePeer_answering, lateCalls_isCardCall, ?_⟩
  intro h
  obtain ⟨link, hlink, hanswer⟩ := h (lateCalls.take 2) _ [] rfl trivial
    (.response ⟨[0x3B, 0x80], ⟨0x01, 0x81⟩⟩) rfl
  cases hlink
  revert hanswer
  decide

theorem run_answers_lag_late :
    ∃ link : Link, link.asked = 2 ∧
      answerBytes (.response ⟨[0x3B, 0x80], ⟨0x01, 0x81⟩⟩) = lateAnswers (link.asked - 1 - 1) := by
  have hcalls : ∀ r ∈ lateCalls.take 2, r.IsCardCall := by
    intro r hmem
    exact lateCalls_isCardCall r (List.mem_of_mem_take hmem)
  obtain ⟨link, hlink, -, hanswer, -⟩ := run_answers_lag latePeer_answering
    ({} : Manager (OnePeer latePeer) Empty Empty) ⟨⟩ (lateCalls.take 2)
    (.transmit ⟨0x00, 0xB0, 0x00, 0x00, none, none⟩) rfl hcalls trivial rfl rfl
  refine ⟨link, ?_, hanswer⟩
  cases hlink
  rfl

end ManagerRequest
end CardLink
