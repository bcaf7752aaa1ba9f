import Wireframe.Backend.Client
import Wireframe.Proofs.Pipeline.LayoutFailure

/-!
# Calls of one client, one after another

A client is called again and again, by a backend that may go by everything it was asked before. What
comes of a call is settled by the call and by what the backend does then, and by nothing else.

* `Server.serve` — calls one after another; `Server.getElem?_serve` is each of them by itself.
* `Client.request_of_not_isRefused`, `Client.request_of_isRefused` — which messages are sent.
* `Client.receive_of_offers`, `Client.receive_of_not_offers` — what becomes of an offered text, and of
  anything else that a backend does.
* `session_isFair_iff` — when a call is answered as it should be.
-/

set_option autoImplicit false

namespace Wireframe

/-! ## Calls and what is promised of them -/

/-- A call of a client: the messages, and what is set for them. -/
structure ChatCall where
  messages : List Message
  options : ChatOptions

/-- A backend, which may go by all that it was ever asked; the present request is the last. -/
abbrev Server := List ChatRequest → Behaviour

namespace Server

variable {α β : Type} (server : Server) (sends : α → List ChatRequest) (exchange : Behaviour → α → β)

/-- What comes of calls to a server that was asked for `asked` so far. Each call makes a client send
something, and then it goes by what the server does. -/
def serve : List ChatRequest → List α → List β
  | _, [] => []
  | asked, call :: rest =>
    let now := asked ++ sends call
    exchange (server now) call :: serve now rest

theorem serve_append (asked : List ChatRequest) (before after : List α) :
    server.serve sends exchange asked (before ++ after) = server.serve sends exchange asked before ++
      server.serve sends exchange (asked ++ before.flatMap sends) after := by
  induction before generalizing asked with
  | nil => simp [serve]
  | cons call rest ih => simp [serve, ih]

/-- Each call goes by a server that was asked what the calls up to it have sent. -/
theorem getElem?_serve (asked : List ChatRequest) (calls : List α) (k : Nat) :
    (server.serve sends exchange asked calls)[k]? = calls[k]?.map fun call =>
      exchange (server (asked ++ (calls.take (k + 1)).flatMap sends)) call := by
  induction calls generalizing asked k with
  | nil => rfl
  | cons call rest ih =>
    cases k with
    | zero => simp [serve]
    | succ k => simp [serve, ih]

theorem length_serve (asked : List ChatRequest) (calls : List α) :
    (server.serve sends exchange asked calls).length = calls.length := by
  induction calls generalizing asked with
  | nil => rfl
  | cons call rest ih => simp [serve, ih]

end Server

/-- A configuration for a client: a key, an address or none, a number for the temperature, and the
least number of characters of an answer. -/
structure IsClientConfig (config : Fields) (least : Int) : Prop where
  key : ∃ key, key ≠ "" ∧ config.get "api_key" = .str key
  address : config.get "api_url" = .null ∨ ∃ url, config.get "api_url" = .str url
  temperature :
    ∃ t, numberOf? (configured config "temperature" (.float Settings.standard.temperature)) = some t
  minLength : configured config "min_response_length" (.int 0) = .int least

/-- Settings with a key configure a client. -/
theorem Settings.isClientConfig {s : Settings} {key : String} (hkey : s.backendKey = some key)
    (hne : key ≠ "") {config : Fields} (hconfig : s.backendJson = .obj config) :
    IsClientConfig config s.minResponseLength := by
  cases hconfig
  exact ⟨⟨key, hne, by rw [hkey]; rfl⟩, .inr ⟨s.backendUrl, rfl⟩, ⟨s.temperature, rfl⟩, rfl⟩

/-- A message with a known role and a text. -/
def Message.IsSound (m : Message) : Prop :=
  ∃ role ∈ messageRoles, ∃ text, m = .ofTexts role text

namespace ChatCall

/-- A call with values of the types that it takes: roles that can be looked up, a number for the
temperature and an integer for the least length, if they are set. -/
structure IsTyped (call : ChatCall) : Prop where
  role : ∀ m ∈ call.messages, ∃ key, m.role.asKey = .ok key
  temperature : call.options.temperature = .null ∨
    ∃ t, numberOf? call.options.temperature = some t
  minLength : call.options.minLength = none ∨ ∃ n : Int, call.options.minLength = some (.int n)

/-- A call that no backend is asked for. -/
def IsRefused (call : ChatCall) : Prop :=
  call.messages = [] ∨ ∃ m ∈ call.messages, ¬ m.IsSound

/-- The least number of characters of an answer: the call's own, or else the configured one. -/
def least (call : ChatCall) (configured : Int) : Int :=
  match call.options.minLength with
  | some (.int n) => n
  | _ => configured

end ChatCall

namespace Behaviour

/-- The first content of a completion is a text or nothing. -/
def IsTyped (b : Behaviour) : Prop :=
  ∀ c choice others, b = .completes c → c.choices = choice :: others →
    choice.content = .null ∨ ∃ text, choice.content = .str text

/-- A backend offers a text that is not white space only and has so many characters at least. -/
def Offers (b : Behaviour) (least : Int) (text : String) : Prop :=
  ∃ c choice others, b = .completes c ∧ c.choices = choice :: others ∧ choice.content = .str text ∧
    (∃ ch ∈ text.toList, Text.isBlank ch = false) ∧ least ≤ text.length

theorem Offers.unique {b : Behaviour} {least : Int} {s t : String} (hs : b.Offers least s)
    (ht : b.Offers least t) : s = t := by
  obtain ⟨c, choice, others, rfl, hchoices, hcontent, -⟩ := hs
  obtain ⟨c', choice', others', hc, hchoices', hcontent', -⟩ := ht
  cases hc
  cases hchoices.symm.trans hchoices'
  exact Json.str.inj (hcontent.symm.trans hcontent')

end Behaviour

/-- What is promised of a call for answers with at least so many characters: it is sent once, unless it
is refused; it is answered with the very text that is offered to it, and only with that; and if it is
not answered, that is a fault of the backend. -/
structure Exchange.IsFair (x : Exchange ChatAnswer) (call : ChatCall) (least : Int) (b : Behaviour) :
    Prop where
  unsent : call.IsRefused → x.sent = []
  sent : ¬ call.IsRefused → ∃ r, x.sent = [r] ∧ r.messages = call.messages
  answered : ∀ text, (∃ a, x.result = .ok a ∧ a.answer.content = text) ↔
    ¬ call.IsRefused ∧ b.Offers least text
  failed : ∀ f, x.result = .error f → ∃ message, f = backendFault message

namespace Client

/-- What a call makes a client send. -/
def sends (client : Client) (call : ChatCall) : List ChatRequest :=
  match client.request call.messages call.options with
  | .error _ => []
  | .ok r => [r]

/-- What comes of chat calls to a server that was asked for something so far. -/
def session (client : Client) (server : Server) :
    List ChatRequest → List ChatCall → List (Exchange ChatAnswer) :=
  server.serve client.sends fun b call => client.generate call.messages call.options b

end Client

theorem Text.isBlankText_eq_false_iff {s : List Char} :
    Text.isBlankText s = false ↔ ∃ c ∈ s, Text.isBlank c = false := by
  simp only [Text.isBlankText, List.all_eq_false, Bool.not_eq_true]

/-! ## Messages -/

/-- A message with a known role and a text is sound. -/
theorem Message.isSound_of_contains {m : Message} {role : String}
    (hkey : m.role.asKey = .ok (some role))
    (hsound : (messageRoles.contains role && m.content.text?.isSome) = true) : m.IsSound := by
  simp only [Bool.and_eq_true, List.contains_iff_mem] at hsound
  obtain ⟨hknown, htext⟩ := hsound
  obtain ⟨role', content⟩ := m
  cases role' <;> cases hkey
  cases content <;> cases htext
  exact ⟨role, hknown, _, rfl⟩

theorem areMessages_cons_of_isSound {m : Message} (hm : m.IsSound) (rest : List Message) :
    areMessages (m :: rest) = areMessages rest := by
  obtain ⟨role, hrole, text, rfl⟩ := hm
  exact if_pos (by simpa [Message.ofTexts, Json.text?] using hrole)

theorem areMessages_cons_of_not_isSound {m : Message} {key : Option String}
    (hkey : m.role.asKey = .ok key) (hm : ¬ m.IsSound) (rest : List Message) :
    areMessages (m :: rest) = .ok false := by
  rw [areMessages, hkey]
  cases key with
  | none => rfl
  | some role => exact if_neg fun hsound => hm (Message.isSound_of_contains hkey hsound)

/-- Messages are looked through to the end, or to the first that is not sound. -/
theorem areMessages_iff {messages : List Message}
    (h : ∀ m ∈ messages, ∃ key, m.role.asKey = .ok key) :
    ∃ sound, areMessages messages = .ok sound ∧ (sound = true ↔ ∀ m ∈ messages, m.IsSound) := by
  induction messages with
  | nil => exact ⟨true, rfl, by simp⟩
  | cons m rest ih =>
    obtain ⟨⟨key, hkey⟩, hrest⟩ := List.forall_mem_cons.1 h
    rw [List.forall_mem_cons]
    by_cases hm : m.IsSound
    · obtain ⟨sound, hall, hiff⟩ := ih hrest
      exact ⟨sound, by rw [areMessages_cons_of_isSound hm, hall], by rw [hiff, and_iff_right hm]⟩
    · exact ⟨false, areMessages_cons_of_not_isSound hkey hm rest, by simp [hm]⟩

/-- A backend can be asked with the messages of a call unless it is refused. -/
theorem ChatCall.isConversation_iff {call : ChatCall} (h : call.IsTyped) :
    ∃ sound, isConversation call.messages = .ok sound ∧ (sound = true ↔ ¬ call.IsRefused) := by
  obtain ⟨sound, hall, hiff⟩ := areMessages_iff h.role
  have hrefused : call.IsRefused ↔ call.messages = [] ∨ ¬ ∀ m ∈ call.messages, m.IsSound := by
    rw [ChatCall.IsRefused, not_forall₂]
    simp only [exists_prop]
  cases hmessages : call.messages with
  | nil => exact ⟨false, rfl, by simp [hrefused, hmessages]⟩
  | cons m rest =>
    rw [hmessages] at hall hiff hrefused
    refine ⟨sound, hall, hiff.trans ?_⟩
    rw [hrefused]
    simp only [List.cons_ne_nil, false_or, not_not]

namespace Client

variable {client : Client} {call : ChatCall} {server : Server} {b : Behaviour} {least : Int}
  {text : String}

theorem clampTemperature_of_number {v : Json} {t : Binary64} (h : numberOf? v = some t) :
    ∃ clamped, clampTemperature v = .ok clamped := by
  rw [clampTemperature, h]
  exact ⟨_, rfl⟩

/-- A refused call makes no request. -/
theorem request_of_isRefused (h : call.IsTyped) (hrefused : call.IsRefused) :
    client.request call.messages call.options = .error (backendFault "Invalid messages format") := by
  obtain ⟨sound, hsound, hiff⟩ := ChatCall.isConversation_iff h
  have : sound = false := Bool.eq_false_iff.2 fun hs => hiff.1 hs hrefused
  rw [request, hsound, this]
  rfl

/-- Any other call makes a request with its messages. -/
theorem request_of_not_isRefused (h : call.IsTyped) (hrefused : ¬ call.IsRefused) {t : Binary64}
    (ht : numberOf? client.temperature = some t) :
    ∃ r, client.request call.messages call.options = .ok r ∧ r.messages = call.messages := by
  obtain ⟨sound, hsound, hiff⟩ := ChatCall.isConversation_iff h
  have hnumber : ∃ t, numberOf? (if call.options.temperature.isNull then client.temperature
      else call.options.temperature) = some t := by
    rcases h.temperature with hnull | ⟨u, hu⟩
    · exact ⟨t, by rw [hnull]; exact ht⟩
    · split
      · exact ⟨t, ht⟩
      · exact ⟨u, hu⟩
  obtain ⟨u, hu⟩ := hnumber
  obtain ⟨clamped, hclamped⟩ := clampTemperature_of_number hu
  rw [request, hsound, hiff.2 hrefused]
  exact ⟨_, by simp only [bind, Except.bind, if_true, hclamped]; rfl, rfl⟩

/-! ## What becomes of a behaviour -/

/-- An offered text is read, and an answer or a failure is made of it. -/
theorem receive_of_offers (h : b.Offers least text) :
    ∃ say : Answer → ChatAnswer, (∀ a, (say a).answer = a) ∧
      receive (.int least) b = (Answer.ofContent text).map say := by
  obtain ⟨c, choice, others, rfl, hchoices, hcontent, hshown, hlength⟩ := h
  refine ⟨fun a => ⟨a, choice.finishReason, c.model, c.usage, c.id⟩, fun a => rfl, ?_⟩
  have hnot : Text.isBlankText text.toList = false := Text.isBlankText_eq_false_iff.2 hshown
  have hlong : isBelow text.length (.int least) = .ok false := by
    simp only [isBelow, decide_eq_false (Int.not_lt.2 hlength)]
  have htext : choice.text "strip" = .ok text := by rw [Choice.text, hcontent]
  rw [receive, accept, hchoices]
  simp only [htext, hnot, hlong, bind, Except.bind]
  cases Answer.ofContent text <;> rfl

/-- All else that a backend does is a fault of it. -/
theorem receive_of_not_offers (hb : b.IsTyped) (h : ∀ text, ¬ b.Offers least text) :
    ∃ message, receive (.int least) b = .error (backendFault message) := by
  cases b with
  | refuses | timesOut | fails => exact ⟨_, rfl⟩
  | completes c =>
    cases hchoices : c.choices with
    | nil => exact ⟨_, by rw [receive, accept, hchoices]⟩
    | cons choice others =>
      obtain ⟨text, htext, hnone⟩ : ∃ text, choice.text "strip" = .ok text ∧
          ((∃ ch ∈ text.toList, Text.isBlank ch = false) → (text.length : Int) < least) := by
        rcases hb c choice others rfl hchoices with hnull | ⟨text, htext⟩
        · exact ⟨"", by rw [Choice.text, hnull]; rfl, nofun⟩
        · exact ⟨text, by rw [Choice.text, htext], fun hshown =>
            Int.not_le.1 fun hlength => h text ⟨c, choice, others, rfl, hchoices, htext, hshown, hlength⟩⟩
      rw [receive, accept, hchoices]
      by_cases hblank : Text.isBlankText text.toList = true
      · exact ⟨_, by simp only [htext, bind, Except.bind, hblank, if_true]; rfl⟩
      · have hshort : (text.length : Int) < least :=
          hnone (Text.isBlankText_eq_false_iff.1 (Bool.not_eq_true _ ▸ hblank))
        have hbelow : isBelow text.length (.int least) = .ok true := by
          simp only [isBelow, decide_eq_true hshort]
        exact ⟨_, by simp only [htext, bind, Except.bind, hblank, hbelow]; rfl⟩

/-! ## One call -/

theorem generate_of_error {f : Failure} (h : client.request call.messages call.options = .error f) :
    client.generate call.messages call.options b = ⟨[], .error f⟩ := by
  rw [generate, h]

theorem generate_of_ok {r : ChatRequest} (h : client.request call.messages call.options = .ok r) :
    client.generate call.messages call.options b =
      ⟨[r], receive (call.options.minLength.getD client.minLength) b⟩ := by
  rw [generate, h]

/-- The least length that counts is the call's own, or else the client's. -/
theorem minLength_getD (h : call.IsTyped) (hleast : client.minLength = .int least) :
    call.options.minLength.getD client.minLength = .int (call.least least) := by
  rcases h.minLength with hnone | ⟨n, hn⟩
  · rw [ChatCall.least, hnone]
    exact hleast
  · rw [ChatCall.least, hn]
    rfl

/-- A client is made from its configuration. -/
theorem ofConfig_of_isClientConfig {config : Fields} (h : IsClientConfig config least) :
    ∃ client, Client.ofConfig config = .ok client ∧ client.minLength = .int least ∧
      ∃ t, numberOf? client.temperature = some t := by
  obtain ⟨key, hne, hkey⟩ := h.key
  have htruthy : (config.get "api_key").isTruthy = true := by
    rw [hkey]
    simpa [Json.isTruthy] using hne
  rcases h.address with hnull | ⟨url, hurl⟩
  · exact ⟨_, by rw [Client.ofConfig]; simp only [htruthy, if_true, hnull]; rfl, h.minLength,
      h.temperature⟩
  · exact ⟨_, by rw [Client.ofConfig]; simp only [htruthy, if_true, hurl]; rfl, h.minLength,
      h.temperature⟩

end Client

/-! ## When a call is answered as it should be -/

section Fair

variable {client : Client} {call : ChatCall} {b : Behaviour} {least : Int} {t : Binary64}
  {text : String}

theorem isFair_of_isRefused (h : call.IsTyped) (hrefused : call.IsRefused) :
    (client.generate call.messages call.options b).IsFair call least b := by
  rw [Client.generate_of_error (Client.request_of_isRefused h hrefused)]
  refine ⟨fun _ => rfl, fun hn => absurd hrefused hn, fun text => ?_, ?_⟩
  · exact ⟨nofun, fun hn => absurd hrefused hn.1⟩
  · rintro f ⟨⟩
    exact ⟨_, rfl⟩

variable (h : call.IsTyped) (hclient : client.minLength = .int least)
  (ht : numberOf? client.temperature = some t) (hrefused : ¬ call.IsRefused)

include h hclient ht hrefused

theorem generate_of_not_isRefused :
    ∃ r, r.messages = call.messages ∧ client.generate call.messages call.options b =
      ⟨[r], Client.receive (.int (call.least least)) b⟩ := by
  obtain ⟨r, hr, hmessages⟩ := Client.request_of_not_isRefused h hrefused ht
  exact ⟨r, hmessages, by rw [Client.generate_of_ok hr, Client.minLength_getD h hclient]⟩

theorem isFair_of_not_offers (hb : b.IsTyped) (hnone : ∀ text, ¬ b.Offers (call.least least) text) :
    (client.generate call.messages call.options b).IsFair call (call.least least) b := by
  obtain ⟨r, hmessages, hgenerate⟩ := generate_of_not_isRefused (b := b) h hclient ht hrefused
  obtain ⟨message, hmessage⟩ := Client.receive_of_not_offers hb hnone
  rw [hgenerate, hmessage]
  refine ⟨fun hr => absurd hr hrefused, fun _ => ⟨r, rfl, hmessages⟩, fun text => ?_, ?_⟩
  · exact ⟨nofun, fun hn => absurd hn.2 (hnone text)⟩
  · rintro f ⟨⟩
    exact ⟨message, rfl⟩

theorem isFair_of_findValue {found : Reply.FoundValue} (hoffers : b.Offers (call.least least) text)
    (hfound : Reply.findValue text.toList = .ok found) :
    (client.generate call.messages call.options b).IsFair call (call.least least) b := by
  obtain ⟨r, hmessages, hgenerate⟩ := generate_of_not_isRefused (b := b) h hclient ht hrefused
  obtain ⟨say, hsay, hreceive⟩ := Client.receive_of_offers hoffers
  have hanswer : Answer.ofContent text = .ok ⟨text, found⟩ := by rw [Answer.ofContent, hfound]
  rw [hgenerate, hreceive, hanswer]
  refine ⟨fun hr => absurd hr hrefused, fun _ => ⟨r, rfl, hmessages⟩, fun other => ⟨?_, ?_⟩, ?_⟩
  · rintro ⟨a, ha, rfl⟩
    cases ha
    rw [hsay]
    exact ⟨hrefused, hoffers⟩
  · rintro ⟨-, hother⟩
    cases hoffers.unique hother
    exact ⟨_, rfl, by rw [hsay]⟩
  · rintro f ⟨⟩

/-- An offered text with too much in it to be read is lost, and not by a fault of the backend. -/
theorem generate_of_excess {e : Json.Excess} (hoffers : b.Offers (call.least least) text)
    (hexcess : Reply.findValue text.toList = .error e) :
    ∃ r, r.messages = call.messages ∧
      client.generate call.messages call.options b = ⟨[r], .error (.excess e)⟩ := by
  obtain ⟨r, hmessages, hgenerate⟩ := generate_of_not_isRefused (b := b) h hclient ht hrefused
  obtain ⟨say, -, hreceive⟩ := Client.receive_of_offers hoffers
  have hanswer : Answer.ofContent text = .error (.excess e) := by rw [Answer.ofContent, hexcess]
  refine ⟨r, hmessages, ?_⟩
  rw [hgenerate, hreceive, hanswer]
  rfl

omit hrefused

/-- A call is answered as promised if and only if no offered text has too much in it to be read. -/
theorem generate_isFair_iff (hb : b.IsTyped) :
    (client.generate call.messages call.options b).IsFair call (call.least least) b ↔
      (¬ call.IsRefused → ∀ text, b.Offers (call.least least) text →
        ∃ found, Reply.findValue text.toList = .ok found) := by
  constructor
  · intro hfair hrefused text hoffers
    cases hfound : Reply.findValue text.toList with
    | ok found => exact ⟨found, rfl⟩
    | error e =>
      obtain ⟨r, -, hgenerate⟩ := generate_of_excess h hclient ht hrefused hoffers hfound
      obtain ⟨a, ha, -⟩ := (hfair.answered text).2 ⟨hrefused, hoffers⟩
      rw [hgenerate] at ha
      cases ha
  · intro hread
    by_cases hrefused : call.IsRefused
    · exact isFair_of_isRefused h hrefused
    · by_cases hoffers : ∃ text, b.Offers (call.least least) text
      · obtain ⟨text, htext⟩ := hoffers
        obtain ⟨found, hfound⟩ := hread hrefused text htext
        exact isFair_of_findValue h hclient ht hrefused htext hfound
      · exact isFair_of_not_offers h hclient ht hrefused hb (not_exists.1 hoffers)

end Fair

/-- **Each call of a client is one request or none, and is answered with the very text that is offered
to it, whatever came before; the exception is a text with too much in it to be read.** The calls are
made one after another to a backend that may go by all that it was asked, the `k`-th when the requests
of the calls up to it were sent. The call is answered as promised if and only if the text that it is
offered, if any, can be read. A text that cannot be read ends the call in a failure that is no fault of
the backend. -/
theorem session_isFair_iff {config : Fields} {least : Int} (hconfig : IsClientConfig config least)
    {server : Server} (hserver : ∀ asked, (server asked).IsTyped) {calls : List ChatCall}
    (hcalls : ∀ call ∈ calls, call.IsTyped) :
    ∃ client, Client.ofConfig config = .ok client ∧
      (client.session server [] calls).length = calls.length ∧
      ∀ k call x, calls[k]? = some call → (client.session server [] calls)[k]? = some x →
        let b := server ((calls.take (k + 1)).flatMap client.sends)
        x = client.generate call.messages call.options b ∧
          (x.IsFair call (call.least least) b ↔
            (¬ call.IsRefused → ∀ text, b.Offers (call.least least) text →
              ∃ found, Reply.findValue text.toList = .ok found)) ∧
          ∀ text e, ¬ call.IsRefused → b.Offers (call.least least) text →
            Reply.findValue text.toList = .error e →
              ∃ r, r.messages = call.messages ∧ x = ⟨[r], .error (.excess e)⟩ := by
  obtain ⟨client, hclient, hleast, t, ht⟩ := Client.ofConfig_of_isClientConfig hconfig
  refine ⟨client, hclient, server.length_serve _ _ [] calls, fun k call x hcall hx => ?_⟩
  have hb := hserver ((calls.take (k + 1)).flatMap client.sends)
  have htyped := hcalls call (List.mem_of_getElem? hcall)
  have hgenerate : x = client.generate call.messages call.options
      (server ((calls.take (k + 1)).flatMap client.sends)) := by
    rw [Client.session, Server.getElem?_serve, hcall, Option.map_some] at hx
    exact (Option.some.inj hx).symm
  refine ⟨hgenerate, ?_, fun text e hrefused hoffers hexcess => ?_⟩
  · rw [hgenerate]
    exact generate_isFair_iff htyped hleast ht hb
  · rw [hgenerate]
    exact generate_of_excess htyped hleast ht hrefused hoffers hexcess

/-- A call with one message and nothing set. -/
def ChatCall.ofTexts (role text : String) : ChatCall :=
  ⟨[.ofTexts role text], ⟨.null, .null, none⟩⟩

theorem ChatCall.isTyped_ofTexts (role text : String) : (ChatCall.ofTexts role text).IsTyped := by
  refine ⟨fun m hm => ⟨some role, ?_⟩, .inl rfl, .inl rfl⟩
  rw [List.mem_singleton.1 hm]
  rfl

theorem ChatCall.not_isRefused_ofTexts {role : String} (hrole : role ∈ messageRoles) (text : String) :
    ¬ (ChatCall.ofTexts role text).IsRefused := by
  rintro (h | ⟨m, hm, hsound⟩)
  · cases h
  · rw [List.mem_singleton.1 hm] at hsound
    exact hsound ⟨role, hrole, text, rfl⟩

/-- A completion with one choice. -/
def Behaviour.saying (text : String) : Behaviour :=
  .completes ⟨[⟨.str text, .str "stop"⟩], none, .str "model", .str "id"⟩

theorem Behaviour.isTyped_saying (text : String) : (Behaviour.saying text).IsTyped := by
  rintro c choice others ⟨⟩ ⟨⟩
  exact .inr ⟨text, rfl⟩

/-- A backend that says hello is not asked with the message of a narrator; a user who then asks it for
five characters or more gets the word. -/
theorem session_isFair_iff_hello :
    let config : Fields := [("api_key", .str "key"), ("min_response_length", .int 5)]
    let server : Server := fun _ => .saying "Hello"
    let calls : List ChatCall := [.ofTexts "narrator" "Hi", .ofTexts "user" "Hi"]
    IsClientConfig config 5 ∧ (∀ asked, (server asked).IsTyped) ∧ (∀ call ∈ calls, call.IsTyped) ∧
      ∃ client, Client.ofConfig config = .ok client ∧
        ∃ x, (client.session server [] calls)[1]? = some x ∧ x.sent.length = 1 ∧
          ∃ a, x.result = .ok a ∧ a.answer.content = "Hello" := by
  intro config server calls
  have hconfig : IsClientConfig config 5 := ⟨⟨"key", by decide, rfl⟩, .inl rfl, ⟨_, rfl⟩, rfl⟩
  have hserver : ∀ asked, (server asked).IsTyped := fun _ => Behaviour.isTyped_saying "Hello"
  have hcalls : ∀ call ∈ calls, call.IsTyped := by
    simp only [calls, List.forall_mem_cons, ChatCall.isTyped_ofTexts, true_and]
    exact nofun
  refine ⟨hconfig, hserver, hcalls, ?_⟩
  obtain ⟨client, hclient, hlength, hall⟩ := session_isFair_iff hconfig hserver hcalls
  obtain ⟨x, hx⟩ : ∃ x, (client.session server [] calls)[1]? = some x :=
    ⟨_, List.getElem?_eq_getElem (by rw [hlength]; decide)⟩
  obtain ⟨-, hiff, -⟩ := hall 1 _ x rfl hx
  have huser : "user" ∈ messageRoles := by decide
  have hrefused := ChatCall.not_isRefused_ofTexts huser "Hi"
  have hfair := hiff.2 fun _ text hoffers => by
    obtain ⟨c, choice, others, ⟨⟩, ⟨⟩, ⟨⟩, -⟩ := hoffers
    exact ⟨_, rfl⟩
  refine ⟨client, hclient, x, hx, ?_, ?_⟩
  · obtain ⟨r, hr, -⟩ := hfair.sent hrefused
    rw [hr]
    rfl
  · exact (hfair.answered "Hello").2
      ⟨hrefused, _, _, _, rfl, rfl, rfl, ⟨'H', by decide, by decide⟩, by decide⟩

theorem findValue_countingText :
    ∃ n, Reply.findValue (String.ofList countingText).toList = .error (.digits n) := by
  rw [String.toList_ofList]
  exact ⟨_, Reply.findValue_of_digits trim_countingText (by decide) isDigit_of_mem_nines
    endsNumber_and_counting maxDigits_lt_nines⟩

/-- **A text that is offered may be lost.** One that begins with a number of too many digits ends the
call in a failure that is no fault of the backend. -/
theorem long_number_is_not_answered :
    let text := String.ofList countingText
    let call : ChatCall := .ofTexts "user" "Count to ten."
    let b : Behaviour := .saying text
    ∃ client, Client.ofConfig [("api_key", .str "key")] = .ok client ∧
      ¬ call.IsRefused ∧ b.Offers (call.least 0) text ∧
      (∃ n, (client.generate call.messages call.options b).result = .error (.excess (.digits n))) ∧
      ¬ (client.generate call.messages call.options b).IsFair call (call.least 0) b := by
  intro text call b
  have hconfig : IsClientConfig [("api_key", .str "key")] 0 :=
    ⟨⟨"key", by decide, rfl⟩, .inl rfl, ⟨_, rfl⟩, rfl⟩
  obtain ⟨client, hclient, hleast, t, ht⟩ := Client.ofConfig_of_isClientConfig hconfig
  have htyped : call.IsTyped := ChatCall.isTyped_ofTexts "user" "Count to ten."
  have hrefused : ¬ call.IsRefused := ChatCall.not_isRefused_ofTexts (by decide) "Count to ten."
  have hoffers : b.Offers (call.least 0) text := by
    refine ⟨_, _, _, rfl, rfl, rfl, ⟨'9', ?_, by decide⟩, Int.natCast_nonneg _⟩
    rw [String.toList_ofList]
    exact List.mem_cons_self
  obtain ⟨n, hexcess⟩ := findValue_countingText
  obtain ⟨r, -, hgenerate⟩ := generate_of_excess htyped hleast ht hrefused hoffers hexcess
  refine ⟨client, hclient, hrefused, hoffers, ⟨n, by rw [hgenerate]⟩, fun hfair => ?_⟩
  obtain ⟨message, hmessage⟩ := hfair.failed (.excess (.digits n)) (by rw [hgenerate])
  cases hmessage

end Wireframe
