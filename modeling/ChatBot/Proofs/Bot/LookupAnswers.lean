import ChatBot.Proofs.Bot.FirstArgument

/-!
What chat hears of the lookup of a crate. A message that calls for one has two turns, around the request, and the reply of the index
settles what is said. Chat hears nothing where the document of the reply is beyond a limit, or where its crates are something that
cannot be gone through; after any other reply, or none, there is an answer. A query with half a character in it is not even sent,
and chat hears nothing of it either.
-/
set_option autoImplicit false

namespace ChatBot
variable {τ : Type}

/-- An answer, or a request that failed. -/
def Reply.IsOutcome (reply : Reply) : Prop := ∀ fault, reply = .failure fault → fault.isRequest = true

theorem Reply.isOutcome_answer (status : Int) (reason : Option Text) (body : Text) : (answer status reason body).IsOutcome :=
  nofun

namespace Feature

/-! ## The reply of the index -/

namespace Crate

/-- The values that have no items to go through. -/
inductive HasNoItems : Json → Prop
  | null : HasNoItems .null
  | bool (b : Bool) : HasNoItems (.bool b)
  | int (n : Int) : HasNoItems (.int n)
  | float (x : Float) : HasNoItems (.float x)

theorem itemsOf_of_hasNoItems {v : Json} (h : HasNoItems v) : itemsOf v = .error (.wrongKind v.kindName) := by
  cases h <;> rfl

theorem exists_itemsOf_eq_ok {v : Json} (h : ¬ HasNoItems v) : ∃ items, itemsOf v = .ok items := by
  cases v with
  | null => exact absurd .null h
  | bool b => exact absurd (.bool b) h
  | int n => exact absurd (.int n) h
  | float x => exact absurd (.float x) h
  | string t => exact ⟨_, rfl⟩
  | array items => exact ⟨_, rfl⟩
  | object members => exact ⟨_, rfl⟩

theorem isAnswered_of_spokenMember {members : List (Text × Json)} {name : Text} {fault : Fault}
    (h : spokenMember members name = .error fault) : Crates.isAnswered fault = true := by
  rw [spokenMember] at h
  split at h
  · cases h
  · cases h
    rfl

theorem isAnswered_of_ofJson {v : Json} {fault : Fault} (h : ofJson v = .error fault) : Crates.isAnswered fault = true := by
  cases v with
  | object members =>
    rw [ofJson] at h
    cases hname : spokenMember members "name" with
    | error fault' =>
      rw [hname] at h
      cases h
      exact isAnswered_of_spokenMember hname
    | ok name =>
      cases hversion : spokenMember members "max_version" with
      | error fault' =>
        rw [hname, hversion] at h
        cases h
        exact isAnswered_of_spokenMember hversion
      | ok version =>
        rw [hname, hversion] at h
        cases h
  | _ =>
    cases h
    rfl

theorem isAnswered_of_mapM {items : List Json} {fault : Fault} (h : items.mapM ofJson = .error fault) :
    Crates.isAnswered fault = true := by
  induction items with
  | nil => cases h
  | cons item items ih =>
    rw [List.mapM_cons] at h
    cases hitem : ofJson item with
    | error fault' =>
      rw [hitem] at h
      cases h
      exact isAnswered_of_ofJson hitem
    | ok crate =>
      cases hitems : items.mapM ofJson with
      | error fault' =>
        rw [hitem, hitems] at h
        cases h
        exact ih hitems
      | ok crates =>
        rw [hitem, hitems] at h
        cases h

/-- Of all documents, only an object whose crates have no items fails without an answer. -/
theorem ofAnswer_unanswered_iff {document : Json} :
    (∃ fault, ofAnswer document = .error fault ∧ Crates.isAnswered fault = false) ↔
      ∃ members v, document = .object members ∧ Json.member? members "crates" = some v ∧ HasNoItems v := by
  constructor
  · rintro ⟨fault, hfault, hanswered⟩
    cases document with
    | object members =>
      refine ⟨members, ?_⟩
      rw [ofAnswer] at hfault
      by_cases hnone : HasNoItems ((Json.member? members "crates").getD (.array []))
      · cases hmember : Json.member? members "crates" with
        | none =>
          rw [hmember] at hnone
          cases hnone
        | some v => exact ⟨v, rfl, rfl, by rwa [hmember] at hnone⟩
      · obtain ⟨items, hitems⟩ := exists_itemsOf_eq_ok hnone
        rw [hitems] at hfault
        have hmap : items.mapM ofJson = .error fault := hfault
        rw [isAnswered_of_mapM hmap] at hanswered
        cases hanswered
    | _ =>
      cases hfault
      cases hanswered
  · rintro ⟨members, v, rfl, hmember, hv⟩
    refine ⟨.wrongKind v.kindName, ?_, rfl⟩
    rw [ofAnswer, hmember, Option.getD_some, itemsOf_of_hasNoItems hv]
    rfl

end Crate

namespace Crates
open Service Program

section
variable (runtime : Runtime)

/-- The crates in the reply of the index, or why there are none. -/
def listing (query : Text) (reply : Reply) : Except Fault (List Crate) :=
  documentOf runtime (address query) reply >>= Crate.ofAnswer

/-- The document of a reply that is accepted is beyond a limit, or it lists crates that cannot be gone through. -/
inductive Unlistable : Reply → Prop
  | limit {status : Int} {reason : Option Text} {body : Text} {failure : Json.Failure} (accepted : status < 400 ∨ 600 ≤ status)
      (hread : Json.read runtime body = .error failure)
      (hlimit : failure.violation = .deepNesting ∨ ∃ digits, failure.violation = .longNumber digits) :
      Unlistable (.answer status reason body)
  | crates {status : Int} {reason : Option Text} {body : Text} {members : List (Text × Json)} {v : Json}
      (accepted : status < 400 ∨ 600 ≤ status) (hread : Json.read runtime body = .ok (.object members))
      (hmember : Json.member? members "crates" = some v) (hv : Crate.HasNoItems v) : Unlistable (.answer status reason body)

end

section
variable {runtime : Runtime}

/-- Of all failures to read a document, only one at a limit goes without an answer. -/
theorem isAnswered_undecoded_iff {failure : Json.Failure} {message : Text} :
    isAnswered ((Fault.ofLimit? failure).getD (.request .undecodable message)) = false ↔
      failure.violation = .deepNesting ∨ ∃ digits, failure.violation = .longNumber digits := by
  rw [Fault.ofLimit?]
  cases failure.violation with
  | longNumber digits => exact ⟨fun _ => .inr ⟨digits, rfl⟩, fun _ => rfl⟩
  | deepNesting => exact ⟨fun _ => .inl rfl, fun _ => rfl⟩
  | _ => exact ⟨nofun, fun h => by simp at h⟩

theorem documentOf_of_accepted {status : Int} (h : status < 400 ∨ 600 ≤ status) (url : Text) (reason : Option Text)
    (body : Text) : documentOf runtime url (.answer status reason body) =
      match Json.read runtime body with
      | .ok document => .ok document
      | .error failure =>
        .error (.during .document ((Fault.ofLimit? failure).getD (.request .undecodable (failure.message body)))) := by
  have hclient : ¬ (400 ≤ status && status < 500) = true := by
    simp only [Bool.and_eq_true, decide_eq_true_eq]
    omega
  have hserver : ¬ (500 ≤ status && status < 600) = true := by
    simp only [Bool.and_eq_true, decide_eq_true_eq]
    omega
  rw [documentOf]
  exact (if_neg hclient).trans (if_neg hserver)

/-- A status that is not accepted is a failed request. -/
theorem documentOf_of_refused {status : Int} (h : ¬ (status < 400 ∨ 600 ≤ status)) (url : Text) (reason : Option Text)
    (body : Text) : ∃ fault, documentOf runtime url (.answer status reason body) = .error fault ∧ isAnswered fault = true := by
  rw [documentOf]
  by_cases hclient : (400 ≤ status && status < 500) = true
  · rw [if_pos hclient]
    exact ⟨_, rfl, rfl⟩
  · have hserver : (500 ≤ status && status < 600) = true := by
      simp only [Bool.and_eq_true, decide_eq_true_eq] at hclient ⊢
      omega
    rw [if_neg hclient, if_pos hserver]
    exact ⟨_, rfl, rfl⟩

theorem listing_of_document {query body : Text} {status : Int} (h : status < 400 ∨ 600 ≤ status) (reason : Option Text)
    {document : Json} (hread : Json.read runtime body = .ok document) :
    listing runtime query (.answer status reason body) = Crate.ofAnswer document := by
  rw [listing, documentOf_of_accepted h, hread]
  rfl

theorem listing_of_unread {query body : Text} {status : Int} (h : status < 400 ∨ 600 ≤ status) (reason : Option Text)
    {failure : Json.Failure} (hread : Json.read runtime body = .error failure) :
    listing runtime query (.answer status reason body) =
      .error (.during .document ((Fault.ofLimit? failure).getD (.request .undecodable (failure.message body)))) := by
  rw [listing, documentOf_of_accepted h, hread]
  rfl

theorem listing_unanswered_iff (query : Text) {reply : Reply} (hreply : reply.IsOutcome) :
    (∃ fault, listing runtime query reply = .error fault ∧ isAnswered fault = false) ↔ Unlistable runtime reply := by
  constructor
  · rintro ⟨fault, hfault, hanswered⟩
    cases reply with
    | failure cause =>
      obtain rfl := Except.error.inj hfault
      have hrequest := hreply cause rfl
      rw [Fault.isRequest] at hrequest
      rw [isAnswered, Fault.cause] at hanswered
      split at hrequest
      · rename_i hcause
        rw [hcause] at hanswered
        cases hanswered
      · cases hrequest
    | answer status reason body =>
      by_cases haccepted : status < 400 ∨ 600 ≤ status
      · cases hread : Json.read runtime body with
        | error failure =>
          rw [listing_of_unread haccepted reason hread] at hfault
          obtain rfl := Except.error.inj hfault
          exact .limit haccepted hread (isAnswered_undecoded_iff.mp hanswered)
        | ok document =>
          rw [listing_of_document haccepted reason hread] at hfault
          obtain ⟨members, v, rfl, hmember, hv⟩ := Crate.ofAnswer_unanswered_iff.mp ⟨fault, hfault, hanswered⟩
          exact .crates haccepted hread hmember hv
      · obtain ⟨refusal, hrefusal, hrefused⟩ := documentOf_of_refused haccepted (address query) reason body
        rw [listing, hrefusal] at hfault
        obtain rfl := Except.error.inj hfault
        rw [hrefused] at hanswered
        cases hanswered
  · intro h
    cases h with
    | limit haccepted hread hlimit =>
      exact ⟨_, listing_of_unread haccepted _ hread, isAnswered_undecoded_iff.mpr hlimit⟩
    | crates haccepted hread hmember hv =>
      obtain ⟨fault, hfault, hanswered⟩ := Crate.ofAnswer_unanswered_iff.mpr ⟨_, _, rfl, hmember, hv⟩
      exact ⟨fault, by rw [listing_of_document haccepted _ hread, hfault], hanswered⟩

theorem not_unlistable_of_listing {query : Text} {reply : Reply} (hreply : reply.IsOutcome) {crates : List Crate}
    (h : listing runtime query reply = .ok crates) : ¬ Unlistable runtime reply := by
  intro hunlistable
  obtain ⟨fault, hfault, -⟩ := (listing_unanswered_iff query hreply).mpr hunlistable
  rw [h] at hfault
  cases hfault

theorem unlistable_iff_of_listing {query : Text} {reply : Reply} (hreply : reply.IsOutcome) {fault : Fault}
    (h : listing runtime query reply = .error fault) : Unlistable runtime reply ↔ isAnswered fault = false := by
  rw [← listing_unanswered_iff query hreply, h]
  constructor
  · rintro ⟨fault', hfault, hunanswered⟩
    rwa [Except.error.inj hfault]
  · exact fun hunanswered => ⟨fault, rfl, hunanswered⟩

end

/-! ## The turns of a lookup -/

/-- What chat is told of the crates that were found, in its order. -/
def told (query : Text) : List Crate → List (ResponseKind × Text)
  | [] => [(.reply, "I cannot find anything for '" ++ query ++ ['\''])]
  | found :: _ =>
    (.say, found.summary) ::
      ((found.repository.filter (! ·.isEmpty)).toList.map fun address => (.say, "repository: " ++ address)) ++
      [(.say, "documentation: " ++ found.docsUrl)]

/-- The answer to a lookup that failed. -/
def failed : List (ResponseKind × Text) := [(.reply, "I cannot do a lookup on crates.io :(")]

/-- What is done about the outcome of a lookup. -/
def settle (query : Text) : Except Fault (List Crate) → Program (World τ) Unit
  | .ok crates => present query crates
  | .error fault =>
    if isAnswered fault then do
      record (.error ("crates.lookup.error query=" ++ query ++ " error=" ++ fault.message) none)
      reply "I cannot do a lookup on crates.io :("
    else fail fault

/-- What is left of a lookup at its request. -/
def awaiting (query : Text) : Program (World τ) Unit :=
  (((do
    let document ← update (nextDocument (address query))
    (ofExcept document).during .request).during .search >>= fun answer =>
      (ofExcept (Crate.ofAnswer answer)).during .listing).during .lookup).attempt >>= settle query

theorem advance_present (query : Text) (crates : List Crate) (stops : Pause → Bool) (w : World τ) :
    (present query crates).advance stops w =
      ⟨(told query crates).map fun response => .response response.1 response.2, w, .ended (.ok ())⟩ := by
  cases crates with
  | nil => rfl
  | cons found crates =>
    obtain ⟨name, version, description, repository⟩ := found
    cases repository with
    | none => rfl
    | some address =>
      cases address with
      | nil => rfl
      | cons c address => rfl

/-- The turn up to the request, which a query with half a character in it does not come to. -/
theorem advance_handle_of_query (settings : Settings) (args : Command.Arguments) {query : Text}
    (h : args.get? "crate" = some query) (m : Message) (w : World τ) :
    (handle settings args m).advance everywhere w =
      if query.any w.runtime.isHalf then ⟨[], w, .ended (.error (.during .lookup .unencodable))⟩
      else ⟨[.note (.request (address query) .null (.float settings.httpTimeout) agentHeader)], w,
        .stopped (awaiting query)⟩ := by
  have hquery : (args.get "crate" : Program (World τ) Text) = .done query := by
    rw [Command.Arguments.get, h]
    rfl
  have hsent : (handle settings args m).advance everywhere w =
      ((((ofExcept (encodable w.runtime query) >>= fun query =>
          (getJson (address query) .null (.float settings.httpTimeout)).during .search >>= fun answer =>
            (ofExcept (Crate.ofAnswer answer)).during .listing).during .lookup).attempt >>= settle query).advance
        everywhere w) := by
    rw [handle, hquery]
    rfl
  rw [hsent]
  split
  · rename_i hhalf
    rw [encodable, if_pos hhalf]
    rfl
  · rename_i hwhole
    rw [encodable, if_neg hwhole]
    rfl

/-- The reply settles the rest. -/
theorem advance_awaiting (query : Text) (stops : Pause → Bool) (w : World τ) :
    (awaiting query).advance stops w =
      (((((ofExcept (documentOf w.runtime (address query) w.nextReply.1)).during .request).during .search >>= fun answer =>
        (ofExcept (Crate.ofAnswer answer)).during .listing).during .lookup).attempt >>= settle query).advance stops w.nextReply.2 :=
  rfl

theorem advance_awaiting_of_listed {query : Text} {w : World τ} {crates : List Crate}
    (h : listing w.runtime query w.nextReply.1 = .ok crates) (stops : Pause → Bool) :
    (awaiting query).advance stops w =
      ⟨(told query crates).map fun response => .response response.1 response.2, w.nextReply.2, .ended (.ok ())⟩ := by
  rw [advance_awaiting]
  rw [listing] at h
  cases hdocument : documentOf w.runtime (address query) w.nextReply.1 with
  | error fault =>
    rw [hdocument] at h
    cases h
  | ok document =>
    rw [hdocument] at h
    have hanswer : Crate.ofAnswer document = .ok crates := h
    change ((((ofExcept (Crate.ofAnswer document)).during .listing).during .lookup).attempt >>= settle query).advance _ _ = _
    rw [hanswer]
    exact advance_present query crates stops w.nextReply.2

theorem exists_advance_awaiting_of_error {query : Text} {w : World τ} {fault : Fault}
    (h : listing w.runtime query w.nextReply.1 = .error fault) (stops : Pause → Bool) :
    ∃ account, isAnswered account = isAnswered fault ∧
      (awaiting query).advance stops w = (settle query (.error account)).advance stops w.nextReply.2 := by
  rw [advance_awaiting]
  rw [listing] at h
  cases hdocument : documentOf w.runtime (address query) w.nextReply.1 with
  | error fault' =>
    rw [hdocument] at h
    obtain rfl : fault' = fault := Except.error.inj h
    exact ⟨.during .lookup (.during .search (.during .request fault')), rfl, rfl⟩
  | ok document =>
    rw [hdocument] at h
    have hanswer : Crate.ofAnswer document = .error fault := h
    refine ⟨.during .lookup (.during .listing fault), rfl, ?_⟩
    change ((((ofExcept (Crate.ofAnswer document)).during .listing).during .lookup).attempt >>= settle query).advance _ _ = _
    rw [hanswer]
    rfl

/-! ## What chat hears -/

/-- The responses to a message, trimmed as they are delivered. -/
def said (m : Message) (responses : List (ResponseKind × Text)) : List Response :=
  responses.map fun response => .toMessage m response.1 (Text.trim response.2)

/-- Every text begins with a letter, or holds an equals sign. -/
theorem exists_mem_of_told {query : Text} {crates : List Crate} {response : ResponseKind × Text}
    (h : response ∈ told query crates ++ failed) : ∃ c ∈ response.2, Text.isBlank c = false := by
  rcases List.mem_append.mp h with htold | hfailed
  · cases crates with
    | nil =>
      obtain rfl := List.mem_singleton.mp htold
      exact ⟨'I', by simp, rfl⟩
    | cons found crates =>
      simp only [told, List.mem_append, List.mem_cons, List.mem_map, List.not_mem_nil, or_false] at htold
      rcases htold with (rfl | ⟨address, -, rfl⟩) | rfl
      · exact ⟨'=', by simp [Crate.summary], rfl⟩
      · exact ⟨'r', by simp, rfl⟩
      · exact ⟨'d', by simp, rfl⟩
  · obtain rfl := List.mem_singleton.mp hfailed
    exact ⟨'I', by simp, rfl⟩

theorem filterMap_responseOf? (m : Message) {responses : List (ResponseKind × Text)}
    (h : ∀ response ∈ responses, ∃ c ∈ response.2, Text.isBlank c = false) :
    (responses.map fun response => Output.response response.1 response.2).filterMap (Errand.responseOf? m) =
      said m responses := by
  induction responses with
  | nil => rfl
  | cons response responses ih =>
    obtain ⟨c, hmem, hblank⟩ := h response List.mem_cons_self
    have hsaid : Errand.responseOf? m (.response response.1 response.2) =
        some (.toMessage m response.1 (Text.trim response.2)) := by
      rw [Errand.responseOf?, Command.deliverable?_eq_some hmem hblank]
      rfl
    rw [List.map_cons, List.filterMap_cons_some hsaid, ih fun other hother => h other (List.mem_cons_of_mem _ hother)]
    rfl

theorem said_ne_nil {m : Message} {query : Text} {crates : List Crate} : said m (told query crates) ≠ [] := by
  cases crates with
  | nil => exact List.cons_ne_nil _ _
  | cons found crates => exact List.cons_ne_nil _ _

/-- What chat hears after a reply to a query. -/
structure Hears (runtime : Runtime) (m : Message) (query : Text) (reply : Reply) (responses : List Response) : Prop where
  nothing_iff : responses = [] ↔ Unlistable runtime reply
  of_listing : ∀ crates, listing runtime query reply = .ok crates → responses = said m (told query crates)
  of_failure : ¬ Unlistable runtime reply → (∀ crates, listing runtime query reply ≠ .ok crates) → responses = said m failed

theorem exists_advance_awaiting (query : Text) (m : Message) (stops : Pause → Bool) {w : World τ}
    (hreply : w.nextReply.1.IsOutcome) :
    ∃ outputs result, (awaiting query).advance stops w = ⟨outputs, w.nextReply.2, .ended result⟩ ∧
      Hears w.runtime m query w.nextReply.1 (outputs.filterMap (Errand.responseOf? m)) := by
  cases hlisting : listing w.runtime query w.nextReply.1 with
  | ok crates =>
    refine ⟨_, _, advance_awaiting_of_listed hlisting stops, ?_⟩
    rw [filterMap_responseOf? m fun response h => exists_mem_of_told (List.mem_append_left failed h)]
    refine ⟨⟨fun h => absurd h said_ne_nil, fun h => absurd h (not_unlistable_of_listing hreply hlisting)⟩,
      fun found h => ?_, fun _ h => absurd hlisting (h crates)⟩
    rw [hlisting] at h
    cases h
    rfl
  | error fault =>
    obtain ⟨account, hanswered, hturn⟩ := exists_advance_awaiting_of_error hlisting stops
    have hnone (crates : List Crate) : listing w.runtime query w.nextReply.1 ≠ .ok crates := by
      rw [hlisting]
      nofun
    -- The account of the fault is answered just where the fault is.
    have hunlistable : Unlistable w.runtime w.nextReply.1 ↔ isAnswered account = false := by
      rw [hanswered]
      exact unlistable_iff_of_listing hreply hlisting
    cases haccount : isAnswered account with
    | true =>
      have hlistable : ¬ Unlistable w.runtime w.nextReply.1 := by simp [hunlistable, haccount]
      rw [settle, if_pos haccount] at hturn
      refine ⟨_, _, hturn, ?_⟩
      exact ⟨⟨nofun, fun h => absurd h hlistable⟩, fun crates h => absurd h (hnone crates), fun _ _ => rfl⟩
    | false =>
      have hsilent : Unlistable w.runtime w.nextReply.1 := hunlistable.mpr haccount
      rw [settle, if_neg (by simp [haccount])] at hturn
      refine ⟨_, _, hturn, ?_⟩
      exact ⟨⟨fun _ => hsilent, fun _ => rfl⟩, fun crates h => absurd h (hnone crates), fun h => absurd hsilent h⟩

end Crates
end Feature

namespace Bot
open Command Feature

theorem filterMap_handlerNotes (m : Message) (s : Schema) (result : Except Fault Unit) :
    (handlerNotes s result).filterMap (Errand.responseOf? m) = [] := by
  cases result <;> rfl

/-- Whoever calls a lookup says what is looked for. -/
theorem exists_query_of_call [Instant τ] {settings : Settings} {started : τ} {m : Message} {s : Schema} {bindings : Bindings}
    {handler : Handler (World τ)} (hroute : (fullRegistry settings started).route m = .call s bindings handler)
    (hname : s.name ∈ (["crate", "crates", "lookup"] : List Text)) :
    handler = Crates.handle settings ∧ ∃ query, bindings.find? "crate" = some query := by
  obtain ⟨-, hextract, c, hc, rfl, rfl, -⟩ := Registry.exists_of_route_eq_call hroute
  obtain ⟨usage, elevated, hs⟩ := (wellFormed_fullRegistry settings started).declared c.schema (List.mem_map_of_mem hc)
  obtain ⟨usage', name, rfl⟩ : ∃ usage name, c = lookup settings usage name := by
    have hneeding : ∀ name ∈ (["crate", "crates", "lookup"] : List Text), name ∈ needingArgument := by decide
    refine (operation_or_lookup hc (hneeding _ hname)).resolve_left ?_
    rintro ⟨usage', op, rfl⟩
    have hop : op.name ∉ (["crate", "crates", "lookup"] : List Text) := by cases op <;> decide
    exact hop hname
  have hslot : (lookup settings usage' name : Registration (Handler (World τ))).schema.slots.head? =
      some ⟨"crate", .required⟩ := rfl
  have hfirst := bindsFirst_of_extract hs ⟨_, List.mem_of_head? hslot, rfl⟩ hextract
  exact ⟨rfl, Option.isSome_iff_exists.mp (hfirst.isSome_find? hslot)⟩

/-- A call for a lookup asks the index first, once, and says nothing. The reply then settles what chat hears: nothing just where it
cannot be listed, the first crate or that there is none where it lists crates, and otherwise that the lookup has failed. Only with
half a character in the query nothing is asked, and nothing is said. -/
theorem lookup_is_answered_iff_listable [Instant τ] (settings : Settings) (started : τ) :
    ∃ bot, full settings started = .ok bot ∧ ∀ m s bindings handler, bot.registry.route m = .call s bindings handler →
      s.name ∈ (["crate", "crates", "lookup"] : List Text) →
      ∃ query, bindings.find? "crate" = some query ∧ ∀ w : World τ,
        let asking := (bot.registry.dispatch m).slice Program.everywhere w
        asking.state = w ∧
        (query.any w.runtime.isHalf = true → asking.rest = .done true ∧
          asking.outputs = .note (.info ("dispatch.command" ++ invocation s m)) ::
            handlerNotes s (.error (.during .lookup .unencodable))) ∧
        (query.any w.runtime.isHalf = false →
          asking.outputs = [.note (.info ("dispatch.command" ++ invocation s m)),
            .note (.request (Crates.address query) .null (.float settings.httpTimeout) Service.agentHeader)] ∧
          ∀ stops (w' : World τ), w'.nextReply.1.IsOutcome →
            let settling := asking.rest.slice stops w'
            settling.rest = .done true ∧ settling.state = w'.nextReply.2 ∧
              Crates.Hears w'.runtime m query w'.nextReply.1 (settling.outputs.filterMap (Errand.responseOf? m))) := by
  refine ⟨_, full_eq_ok settings started, fun m s bindings handler hroute hname => ?_⟩
  obtain ⟨rfl, query, hquery⟩ := exists_query_of_call hroute hname
  refine ⟨query, hquery, fun w => ?_⟩
  have hasking := Crates.advance_handle_of_query settings ⟨s, bindings⟩ hquery m w
  intro asking
  cases hhalf : query.any w.runtime.isHalf with
  | true =>
    rw [if_pos hhalf] at hasking
    have hslice : asking = _ := Registry.slice_dispatch_of_ended hroute hasking
    rw [hslice]
    exact ⟨rfl, fun _ => ⟨rfl, rfl⟩, nofun⟩
  | false =>
    rw [if_neg (by simp [hhalf])] at hasking
    have hslice : asking = _ := Registry.slice_dispatch_of_stopped hroute hasking
    rw [hslice]
    refine ⟨rfl, nofun, fun _ => ⟨rfl, fun stops w' hreply => ?_⟩⟩
    obtain ⟨outputs, result, hturn, hhears⟩ := Crates.exists_advance_awaiting query m stops hreply
    intro settling
    have hsettling : settling = _ := (Program.slice_eq_advance _ _ _).trans
      (by rw [Schema.advance_conclude_of_ended _ hturn])
    rw [hsettling]
    refine ⟨rfl, rfl, ?_⟩
    rw [List.filterMap_append, filterMap_handlerNotes, List.append_nil]
    exact hhears

/-- A crate is found, with a place for its sources. -/
theorem lookup_is_answered_of_found :
    let m : Message := ⟨"#lobby", "ana", "!crate serde", [], "console", "m0"⟩
    let w : World Milliseconds :=
      { files := .empty, clock := ⟨0⟩, draws := [], shelf := ⟨.ofText "commands.json", [], false⟩, lastChatter := none,
        replies := [.answer 200 none "\x7b\"crates\": [\x7b\"name\": \"serde\", \"max_version\": 1, \"repository\": \"r\"\x7d]\x7d"] }
    ∃ bot, full Settings.standard ⟨0⟩ = .ok bot ∧
      let asking := (bot.registry.dispatch m).slice Program.everywhere w
      let settling := asking.rest.slice Program.nowhere w
      asking.state = w ∧ settling.rest = .done true ∧
        settling.outputs.filterMap (Errand.responseOf? m) = Crates.said m
          [(.say, "serde = 1"), (.say, "repository: r"), (.say, "documentation: https://docs.rs/serde/1/serde")] ∧
        ¬ Crates.Unlistable w.runtime w.nextReply.1 := by
  intro m w
  obtain ⟨bot, hfull, hcalls⟩ := lookup_is_answered_iff_listable Settings.standard (⟨0⟩ : Milliseconds)
  have hbot := hfull
  rw [full_eq_ok] at hbot
  obtain rfl := Except.ok.inj hbot
  have hroute : (fullRegistry Settings.standard (⟨0⟩ : Milliseconds)).route m =
      .call (lookup Settings.standard "crate <crate>" "crate" : Registration (Handler (World Milliseconds))).schema
        [("crate", "serde")] (Crates.handle Settings.standard) := by rfl
  obtain ⟨query, hquery, hcall⟩ := hcalls m _ _ _ hroute (by decide)
  obtain rfl : "serde".toList = query := Option.some.inj hquery
  obtain ⟨hstate, -, hsends⟩ := hcall w
  obtain ⟨-, hsettles⟩ := hsends rfl
  obtain ⟨hended, -, hhears⟩ := hsettles Program.nowhere w (Reply.isOutcome_answer _ _ _)
  have hresponses : ((((fullRegistry Settings.standard (⟨0⟩ : Milliseconds)).dispatch m).slice Program.everywhere w).rest.slice
      Program.nowhere w).outputs.filterMap (Errand.responseOf? m) = Crates.said m
        [(.say, "serde = 1"), (.say, "repository: r"), (.say, "documentation: https://docs.rs/serde/1/serde")] := by
    decide +kernel
  refine ⟨_, hfull, hstate, hended, hresponses, fun hunlistable => ?_⟩
  have hnothing := hhears.nothing_iff.mpr hunlistable
  rw [hresponses] at hnothing
  cases hnothing

/-- Crates that are nothing leave a question for a crate without a word. -/
theorem null_crates_are_met_with_silence :
    let m : Message := ⟨"#lobby", "ana", "!crate serde", [], "console", "m0"⟩
    let w : World Milliseconds :=
      { files := .empty, clock := ⟨0⟩, draws := [], shelf := ⟨.ofText "commands.json", [], false⟩, lastChatter := none,
        replies := [.answer 200 none "\x7b\"crates\": null\x7d"] }
    w.nextReply.1.IsOutcome ∧ ∃ bot, full Settings.standard ⟨0⟩ = .ok bot ∧
      bot.registry.route m = .call (lookup Settings.standard "crate <crate>" "crate" : Registration (Handler (World Milliseconds))).schema
        [("crate", "serde")] (Crates.handle Settings.standard) ∧
      (bot.handle m w).1 = [] := by
  intro m w
  have hroute : (fullRegistry Settings.standard (⟨0⟩ : Milliseconds)).route m =
      .call (lookup Settings.standard "crate <crate>" "crate" : Registration (Handler (World Milliseconds))).schema
        [("crate", "serde")] (Crates.handle Settings.standard) := by rfl
  have hfull := full_eq_ok Settings.standard (⟨0⟩ : Milliseconds)
  refine ⟨Reply.isOutcome_answer _ _ _, _, hfull, hroute, ?_⟩
  decide +kernel

end Bot
end ChatBot
