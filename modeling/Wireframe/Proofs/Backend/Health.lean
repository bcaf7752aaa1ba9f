import Wireframe.Proofs.Backend.Session
import Wireframe.Proofs.Naming

/-!
# Whether a backend is well

A client can be asked at any time whether its backend works, between other calls or without any. The
answer goes by the first choice of what the backend sends back, and there is one as long as that choice
can be read.

* `ContainsOK`, `Client.saysOK_iff` — the word that a healthy backend says.
* `Client.healthOf_eq_true_iff`, `Client.exists_healthOf_iff` — when a check says yes, and when it says
  anything at all.
* `Client.dialogue` — calls of both kinds, one after another.
* `checkHealth_isSound_iff` — when a check in a dialogue is what it should be.
-/

set_option autoImplicit false

namespace Wireframe

/-! ## What a check is to tell -/

/-- Whether `OK` stands in a text, in letters of either case. -/
def ContainsOK (text : List Char) : Prop :=
  ∃ o ∈ ['o', 'O'], ∃ k ∈ ['k', 'K'], [o, k] <:+: text

namespace Behaviour

/-- The first choice of a completion is a text with `OK` in it. -/
def SaysOK (b : Behaviour) : Prop :=
  ∃ c choice others text, b = .completes c ∧ c.choices = choice :: others ∧
    choice.content = .str text ∧ ContainsOK text.toList

/-- A completion has no choice. -/
def IsEmpty (b : Behaviour) : Prop := ∃ c, b = .completes c ∧ c.choices = []

/-- The first content of a completion is neither a text nor nothing. -/
def IsForeign (b : Behaviour) : Prop :=
  ∃ c choice others, b = .completes c ∧ c.choices = choice :: others ∧
    choice.content.text? = none ∧ choice.content.isTruthy = true

end Behaviour

/-- What is promised of a check: it tells whether the backend is well, and says that it is only of one
that says so. -/
structure Exchange.IsSound (x : Exchange Bool) (b : Behaviour) : Prop where
  returns : ∃ healthy, x.result = .ok healthy
  honest : x.result = .ok true → b.SaysOK

namespace Client

open Naming Text

variable {b : Behaviour}

/-! ## What a check tells -/

theorem pair_isInfix_iff {o k a b : Char} {rest : List Char} :
    [o, k] <:+: a :: b :: rest ↔ (o = a ∧ k = b) ∨ [o, k] <:+: b :: rest := by
  rw [List.infix_cons_iff, List.cons_prefix_cons, List.cons_prefix_cons,
    and_iff_left List.nil_prefix]

/-- The word is searched for in either case. -/
theorem saysOK_iff {s : List Char} : saysOK s = true ↔ ContainsOK s := by
  fun_induction saysOK s with
  | case1 a b rest ih =>
    have hfirst : lowerAscii a = 'o' ↔ a ∈ ['o', 'O'] := by
      rw [lowerAscii_eq_iff (by decide), List.mem_pair]
      rfl
    have hsecond : lowerAscii b = 'k' ↔ b ∈ ['k', 'K'] := by
      rw [lowerAscii_eq_iff (by decide), List.mem_pair]
      rfl
    rw [Bool.or_eq_true, Bool.and_eq_true, beq_iff_eq, beq_iff_eq, hfirst, hsecond, ih]
    simp only [ContainsOK, pair_isInfix_iff]
    constructor
    · rintro (⟨ha, hb⟩ | ⟨o, ho, k, hk, hin⟩)
      · exact ⟨a, ha, b, hb, .inl ⟨rfl, rfl⟩⟩
      · exact ⟨o, ho, k, hk, .inr hin⟩
    · rintro ⟨o, ho, k, hk, ⟨rfl, rfl⟩ | hin⟩
      · exact .inl ⟨ho, hk⟩
      · exact .inr ⟨o, ho, k, hk, hin⟩
  | case2 s hshort =>
    refine iff_of_false Bool.false_ne_true ?_
    rintro ⟨o, -, k, -, hin⟩
    have hlength : 2 ≤ s.length := hin.length_le
    match s, hlength with
    | a :: b :: rest, _ => exact hshort a b rest rfl

/-- A content that is no text is read as the empty text if it counts as nothing, and not at all if it
counts as something. -/
theorem text_of_not_text {choice : Choice} (h : choice.content.text? = none) (member : String) :
    choice.text member = if choice.content.isTruthy
      then .error (.noMember choice.content.typeName member) else .ok "" := by
  unfold Choice.text
  split
  · rename_i text htext
    rw [htext] at h
    cases h
  · rfl

theorem healthOf_of_text {c : Completion} {choice : Choice} {others : List Choice} {text : String}
    (hchoices : c.choices = choice :: others) (htext : choice.text "upper" = .ok text) :
    healthOf (.completes c) = .ok (saysOK text.toList) := by
  simp only [healthOf, hchoices, htext]
  rfl

theorem healthOf_of_isEmpty (h : b.IsEmpty) : healthOf b = .error .outOfRange := by
  obtain ⟨c, rfl, hchoices⟩ := h
  simp only [healthOf, hchoices]

theorem healthOf_of_isForeign (h : b.IsForeign) :
    ∃ typeName, healthOf b = .error (.noMember typeName "upper") := by
  obtain ⟨c, choice, others, rfl, hchoices, htext, hgiven⟩ := h
  have hread := text_of_not_text htext "upper"
  rw [hgiven] at hread
  refine ⟨choice.content.typeName, ?_⟩
  simp only [healthOf, hchoices, hread]
  rfl

theorem healthOf_of_saysOK (h : b.SaysOK) : healthOf b = .ok true := by
  obtain ⟨c, choice, others, text, rfl, hchoices, hcontent, hyes⟩ := h
  have hread : choice.text "upper" = .ok text := by rw [Choice.text, hcontent]
  rw [healthOf_of_text hchoices hread, saysOK_iff.2 hyes]

/-- Of any other backend a check says no. -/
theorem healthOf_of_not (hempty : ¬b.IsEmpty) (hforeign : ¬b.IsForeign) (hyes : ¬b.SaysOK) :
    healthOf b = .ok false := by
  cases b with
  | refuses | timesOut | fails => rfl
  | completes c =>
    cases hchoices : c.choices with
    | nil => exact absurd ⟨c, rfl, hchoices⟩ hempty
    | cons choice others =>
      cases htext : choice.content.text? with
      | some text =>
        have hcontent : choice.content = .str text := by
          cases hv : choice.content <;> rw [hv] at htext <;> cases htext
          rfl
        have hread : choice.text "upper" = .ok text := by rw [Choice.text, hcontent]
        have hno : saysOK text.toList = false := Bool.eq_false_iff.2 fun hok =>
          hyes ⟨c, choice, others, text, rfl, hchoices, hcontent, saysOK_iff.1 hok⟩
        rw [healthOf_of_text hchoices hread, hno]
      | none =>
        have hread := text_of_not_text htext "upper"
        rw [if_neg fun hgiven => hforeign ⟨c, choice, others, rfl, hchoices, htext, hgiven⟩] at hread
        exact healthOf_of_text hchoices hread

/-- What a check comes to is settled by four kinds of backends. -/
theorem healthOf_cases (b : Behaviour) :
    (b.IsEmpty ∧ healthOf b = .error .outOfRange) ∨
      (b.IsForeign ∧ ∃ typeName, healthOf b = .error (.noMember typeName "upper")) ∨
      (b.SaysOK ∧ healthOf b = .ok true) ∨
      (¬b.IsEmpty ∧ ¬b.IsForeign ∧ ¬b.SaysOK ∧ healthOf b = .ok false) := by
  by_cases hempty : b.IsEmpty
  · exact .inl ⟨hempty, healthOf_of_isEmpty hempty⟩
  by_cases hforeign : b.IsForeign
  · exact .inr (.inl ⟨hforeign, healthOf_of_isForeign hforeign⟩)
  by_cases hyes : b.SaysOK
  · exact .inr (.inr (.inl ⟨hyes, healthOf_of_saysOK hyes⟩))
  · exact .inr (.inr (.inr ⟨hempty, hforeign, hyes, healthOf_of_not hempty hforeign hyes⟩))

/-- A check says yes of a backend exactly if the backend says so. -/
theorem healthOf_eq_true_iff : healthOf b = .ok true ↔ b.SaysOK := by
  refine ⟨fun h => ?_, healthOf_of_saysOK⟩
  obtain ⟨-, hb⟩ | ⟨-, _, hb⟩ | ⟨hyes, -⟩ | ⟨-, -, -, hb⟩ := healthOf_cases b
  · rw [hb] at h
    cases h
  · rw [hb] at h
    cases h
  · exact hyes
  · rw [hb] at h
    cases h

theorem healthOf_eq_outOfRange_iff : healthOf b = .error .outOfRange ↔ b.IsEmpty := by
  refine ⟨fun h => ?_, healthOf_of_isEmpty⟩
  obtain ⟨hempty, -⟩ | ⟨-, _, hb⟩ | ⟨-, hb⟩ | ⟨-, -, -, hb⟩ := healthOf_cases b
  · exact hempty
  · rw [hb] at h
    cases h
  · rw [hb] at h
    cases h
  · rw [hb] at h
    cases h

/-- A check says anything at all unless there is no choice, or one that cannot be read. -/
theorem exists_healthOf_iff : (∃ healthy, healthOf b = .ok healthy) ↔ ¬b.IsEmpty ∧ ¬b.IsForeign := by
  constructor
  · rintro ⟨healthy, h⟩
    refine ⟨fun hempty => ?_, fun hforeign => ?_⟩
    · rw [healthOf_of_isEmpty hempty] at h
      cases h
    · obtain ⟨_, hb⟩ := healthOf_of_isForeign hforeign
      rw [hb] at h
      cases h
  · rintro ⟨hempty, hforeign⟩
    obtain ⟨h, -⟩ | ⟨h, -⟩ | ⟨-, hb⟩ | ⟨-, -, -, hb⟩ := healthOf_cases b
    · exact absurd h hempty
    · exact absurd h hforeign
    · exact ⟨true, hb⟩
    · exact ⟨false, hb⟩

end Client

/-! ## Calls of both kinds, one after another -/

inductive ClientCall where
  | chat (call : ChatCall)
  | health

/-- What came of a call. -/
inductive ClientExchange where
  | chat (x : Exchange ChatAnswer)
  | health (x : Exchange Bool)

namespace Client

/-- What a call makes a client send. -/
def requests (client : Client) : ClientCall → List ChatRequest
  | .chat call => client.sends call
  | .health => [client.healthRequest]

/-- What comes of a call for what the backend does then. -/
def exchange (client : Client) (b : Behaviour) : ClientCall → ClientExchange
  | .chat call => .chat (client.generate call.messages call.options b)
  | .health => .health (client.checkHealth b)

/-- What comes of calls of both kinds to a server that was asked for something so far. -/
def dialogue (client : Client) (server : Server) :
    List ChatRequest → List ClientCall → List ClientExchange :=
  server.serve client.requests client.exchange

end Client

/-- **A check of a backend's health is sound unless there is no choice to read.** Wherever it stands among
the calls of a client, a check is one request; what it tells is settled by what the backend does then,
and it says yes exactly if the first choice is a text with `OK` in it, in letters of either case. It says
anything at all, as it should, if and only if what the backend sends back is no completion without
choices, and no completion whose first content is neither a text nor nothing; without choices it fails as
one that reads past the end of a list. -/
theorem checkHealth_isSound_iff (client : Client) (server : Server) (before after : List ClientCall) :
    let asked := before.flatMap client.requests ++ [client.healthRequest]
    let b := server asked
    ∃ x, client.dialogue server [] (before ++ .health :: after) =
        client.dialogue server [] before ++ .health x :: client.dialogue server asked after ∧
      x.sent = [client.healthRequest] ∧
      (x.result = .ok true ↔ b.SaysOK) ∧
      (x.IsSound b ↔ ¬b.IsEmpty ∧ ¬b.IsForeign) ∧
      (x.result = .error .outOfRange ↔ b.IsEmpty) := by
  intro asked b
  refine ⟨client.checkHealth b, server.serve_append _ _ [] before (.health :: after), rfl,
    Client.healthOf_eq_true_iff, ?_, Client.healthOf_eq_outOfRange_iff⟩
  constructor
  · intro hsound
    exact Client.exists_healthOf_iff.1 hsound.returns
  · intro hread
    exact ⟨Client.exists_healthOf_iff.2 hread, Client.healthOf_eq_true_iff.1⟩

/-- A completion that has no choice. -/
def Behaviour.saysNothing : Behaviour := .completes ⟨[], none, .str "model", .str "id"⟩

/-- **A backend without choices stops the check of its health.** What is a fault of the backend for
any other call is none that a check would tell. -/
theorem check_of_nothing_fails :
    let b := Behaviour.saysNothing
    ∃ client, Client.ofConfig [("api_key", .str "key")] = .ok client ∧
      (client.checkHealth b).result = .error .outOfRange ∧
      ¬(client.checkHealth b).IsSound b ∧
      (client.generate [.ofTexts "user" "Hi"] ⟨.null, .null, none⟩ b).result =
        .error (backendFault "Generative backend returned no choices") := by
  intro b
  refine ⟨_, rfl, rfl, fun hsound => ?_, rfl⟩
  obtain ⟨healthy, hhealthy⟩ := hsound.returns
  cases hhealthy

end Wireframe
