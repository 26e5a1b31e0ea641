import ChatBot.Proofs.Bot.ChannelIsolation
import ChatBot.Proofs.Command.Invocation
import ChatBot.Proofs.Storage.Loading

/-!
What a moderator types is what is stored. A line that sets, adds or edits a custom response is taken apart into a name and a
body, the body goes into memory and into the file character by character, and nothing else there changes. That holds of texts that
can be encoded: half a character anywhere among the responses empties the file.
-/
set_option autoImplicit false

namespace ChatBot

namespace Storage.Entries
variable {entries : Entries}

theorem get?_set_self (entries : Entries) (c name : Text) (template : Template) :
    (entries.set c name template).get? c name = some template := by
  simp [get?]

/-- Every response but the one that was set is listed where it was. -/
theorem commands_set (entries : Entries) (c name : Text) (template : Template) (other : Text) :
    ((entries.set c name template).commands other).filter (fun r => (other, r.1) ≠ (c, name)) =
      (entries.commands other).filter fun r => (other, r.1) ≠ (c, name) := by
  have hmap : ∀ templates : Assoc Text Template,
      (templates.map fun r => (r.1, r.2.body)).filter (fun r => (other, r.1) ≠ (c, name)) =
        (templates.filter fun r => (other, r.1) ≠ (c, name)).map fun r => (r.1, r.2.body) := by
    intro templates
    rw [List.filter_map]
    rfl
  by_cases hc : c = other
  · subst hc
    have hnames : ∀ templates : Assoc Text Template,
        (templates.filter fun r => (c, r.1) ≠ (c, name)) = templates.filter fun r => r.1 ≠ name := by
      intro templates
      simp
    simp only [commands, channel_set_self]
    rw [hmap, hmap, hnames, hnames, Assoc.filter_insert]
  · simp only [commands, channel_set_of_ne entries name template hc]

/-- The other channels stay in their order. -/
theorem channels_set (entries : Entries) (c name : Text) (template : Template) :
    (Assoc.keys (entries.set c name template)).filter (· ≠ c) = (Assoc.keys entries).filter (· ≠ c) := by
  have hkeys : ∀ es : Entries, (Assoc.keys es).filter (· ≠ c) = (es.filter fun b => b.1 ≠ c).map Prod.fst := by
    intro es
    rw [Assoc.keys, List.filter_map]
    rfl
  rw [hkeys, hkeys, set, Assoc.filter_insert]

end Storage.Entries

namespace Feature.CustomResponses
open Storage
variable {τ : Type}

theorem Operation.wellFormed_decide (op : Operation) (args : Command.Arguments) (c : Text) {entries : Entries}
    (h : entries.WellFormed) : ((op.decide args c (entries.channel c)).applied c entries).WellFormed := by
  rcases op.decide_cases args c (entries.channel c) with
    ⟨fault, hd⟩ | ⟨text, hd, -⟩ | ⟨name, body, note, -, -, -, htemplate, hd⟩ | ⟨name, note, -, hd⟩
  · rw [hd]
    exact h
  · rw [hd]
    exact h
  · rw [hd]
    exact h.set htemplate
  · rw [hd]
    exact h.remove c name

/-- What a command decides that is to store a good body. -/
theorem decideUpdate_of_keys (c name : Text) {body : Text} {keys : List Text} (templates : Assoc Text Template)
    (hguard : isChatCommand body = false) (hkeys : Template.keys body = .ok keys) :
    ∃ note, decideUpdate c name (some body) templates =
      .change (templates.insert name ⟨name, body⟩) note (updated name body) := by
  have htemplate := Template.compile_of_keys hkeys name
  simp only [decideUpdate, hguard, htemplate, Bool.false_eq_true, if_false]
  exact ⟨_, rfl⟩

/-- What is written when writes succeed is loaded again. -/
theorem load_written (note : Note) (text : Text) {w : World τ} (hw : w.Writable) (hentries : w.shelf.entries.WellFormed) :
    Entries.load w.runtime (written note text w).2.files w.shelf.path = .ok (w.shelf.entries, []) := by
  have hresult := (hw.finishWrite w.shelf.entries).1
  have hfinish : Shelf.finishWrite w.shelf.entries (w.withWriting true) =
      (.ok (), (Shelf.finishWrite w.shelf.entries (w.withWriting true)).2) := Prod.ext hresult rfl
  obtain ⟨hnode, -⟩ := Shelf.save_of_finishWrite hfinish
  have hfiles : (written note text w).2 = (Shelf.finishWrite w.shelf.entries (w.withWriting true)).2 := by
    rw [written, hresult]
  rw [hfiles]
  exact hentries.load_of_node? hnode

end Feature.CustomResponses

namespace Bot
open Command Feature Storage
variable {τ : Type}

/-! ## Lines -/

variable [Instant τ]

/-- A line that stores a response is taken apart at the space behind the name; the body is all that follows it. -/
theorem IsFull.route_of_storing_line {bot : Bot τ} (hbot : bot.IsFull) {m : Message} {op : CustomResponses.Operation}
    {name body : Text} {c : Char} (hop : op ≠ .remove) (helevated : m.isElevated = true)
    (hcontent : m.content = bot.settings.leader :: (op.name ++ ' ' :: (name ++ ' ' :: body)))
    (hhead : name.head? = some c) (hc : Text.isBlank c = false) (hspace : ' ' ∉ name) (hbody : body ≠ []) :
    ∃ s, s.name = op.name ∧ bot.registry.route m = .call s [("command", name), ("body", body)] op.handler := by
  obtain ⟨started, hregistry⟩ := hbot.registry
  obtain ⟨usage, hmem⟩ := exists_operation_mem bot.settings started op
  let s := schemaOf bot.settings usage op.name op.slots true
  have hslots : s.slots = [⟨"command", .required⟩, ⟨"body", .flexible⟩] := by
    cases op with
    | remove => exact absurd rfl hop
    | _ => rfl
  have hextract : s.extract m.content = .matched [("command", name), ("body", body)] := by
    rw [hcontent]
    exact extract_word_and_rest hslots (by decide) hhead hc hspace hbody
  have hroute := (wellFormed_fullRegistry bot.settings started).route_of_invocation hmem hcontent (by simp)
  have hto : Registry.routeTo m (operation bot.settings usage op : Registration (Handler (World τ))) =
      .call s [("command", name), ("body", body)] op.handler := by
    have hallowed : ¬(s.elevated && !m.isElevated) = true := by simp [helevated]
    rw [Registry.routeTo, show (operation bot.settings usage op).schema.extract m.content = _ from hextract]
    exact if_neg hallowed
  exact ⟨s, rfl, by rw [hregistry, hroute, hto]⟩

/-! ## Messages -/

/-- Responses that could have been loaded stay so, whatever is said. -/
theorem IsFull.wellFormed_handle {bot : Bot τ} (hbot : bot.IsFull) (m : Message) {w : World τ}
    (hw : w.shelf.entries.WellFormed) : (bot.handle m w).2.1.shelf.entries.WellFormed := by
  rcases hbot.entries_handle m w with hsame | ⟨op, args, happlied⟩
  · rw [hsame]
    exact hw
  · rw [happlied]
    exact op.wellFormed_decide args m.channel hw

theorem IsFull.wellFormed_after {bot : Bot τ} (hbot : bot.IsFull) (arrivals : List (Arrival τ)) {w : World τ}
    (hw : w.shelf.entries.WellFormed) : (bot.after arrivals w).shelf.entries.WellFormed := by
  induction arrivals generalizing w with
  | nil => exact hw
  | cons a arrivals ih =>
    rw [after_cons]
    have hmeets : (a.meets w).shelf.entries.WellFormed := hw
    exact ih (hbot.wellFormed_handle a.message hmeets)

/-- Whether a command stores what it is given on a channel with these responses. -/
def StoresOn (entries : Entries) (channel name : Text) (op : CustomResponses.Operation) : Prop :=
  op = .set ∨ op = .add ∧ entries.get? channel name = none ∨ op = .edit ∧ (entries.get? channel name).isSome = true

theorem StoresOn.decide {entries : Entries} {channel name body : Text} {op : CustomResponses.Operation} {keys : List Text}
    (h : StoresOn entries channel name op) (s : Schema) (hbody : body ≠ [])
    (hguard : CustomResponses.isChatCommand body = false) (hkeys : Template.keys body = .ok keys) :
    ∃ note, op.decide ⟨s, [("command", name), ("body", body)]⟩ channel (entries.channel channel) =
      .change ((entries.channel channel).insert name ⟨name, body⟩) note (CustomResponses.updated name body) := by
  obtain ⟨note, hupdate⟩ :=
    CustomResponses.decideUpdate_of_keys channel name (entries.channel channel) hguard hkeys
  have hname : Arguments.get? ⟨s, [("command", name), ("body", body)]⟩ "command" = some name := rfl
  have hgiven : Arguments.getNonEmpty? ⟨s, [("command", name), ("body", body)]⟩ "body" = some body := by
    have hget : Arguments.get? ⟨s, [("command", name), ("body", body)]⟩ "body" = some body := rfl
    rw [Arguments.getNonEmpty?, hget]
    simp [Option.filter, hbody]
  refine ⟨note, ?_⟩
  simp only [CustomResponses.Operation.decide, hname, hgiven]
  rcases h with rfl | ⟨rfl, hnone⟩ | ⟨rfl, hsome⟩
  · exact hupdate
  · have hmissing : (entries.channel channel).find? name = none := hnone
    simp only [CustomResponses.Operation.decideOn, hmissing, Option.isSome_none, Bool.false_eq_true, if_false]
    exact hupdate
  · have hthere : ((entries.channel channel).find? name).isSome = true := hsome
    simp only [CustomResponses.Operation.decideOn, hthere, if_true]
    exact hupdate

/-- A command that stores a response changes memory so and writes memory to the file. -/
theorem IsFull.handle_of_storing {bot : Bot τ} (hbot : bot.IsFull) {w : World τ} {m : Message} {s : Schema}
    {op : CustomResponses.Operation} {name body : Text} {keys : List Text} (hw : w.Writable)
    (hwell : w.shelf.entries.WellFormed)
    (hroute : bot.registry.route m = .call s [("command", name), ("body", body)] op.handler) (hbody : body ≠ [])
    (hguard : CustomResponses.isChatCommand body = false) (hkeys : Template.keys body = .ok keys)
    (hstores : StoresOn w.shelf.entries m.channel name op) :
    let w' := (bot.handle m w).2.1
    w'.shelf.entries = w.shelf.entries.set m.channel name ⟨name, body⟩ ∧
      Entries.load w.runtime w'.files w.shelf.path = .ok (w'.shelf.entries, []) := by
  intro w'
  obtain ⟨note, hdecide⟩ := hstores.decide s hbody hguard hkeys
  let changed := w.withEntries (w.shelf.entries.set m.channel name ⟨name, body⟩)
  have hwritable : changed.Writable := ⟨hw.free, hw.unrefused, hw.whole, hw.opens⟩
  have hchanged : changed.shelf.entries.WellFormed := hwell.set (Template.compile_of_keys hkeys name)
  have houtcome : (CustomResponses.Decision.change ((w.shelf.entries.channel m.channel).insert name ⟨name, body⟩) note
      (CustomResponses.updated name body)).outcome m.channel w =
        CustomResponses.written note (CustomResponses.updated name body) changed := by
    rw [CustomResponses.Decision.outcome, hw.free]
    rfl
  have hstorage : w'.storage = (CustomResponses.written note (CustomResponses.updated name body) changed).2.storage := by
    obtain ⟨-, hcourse, -⟩ := course_of_operation w hroute
    rw [hdecide, houtcome, ← (hbot.handle_eq_course m w).2] at hcourse
    exact hcourse
  obtain ⟨hfiles, hshelf, -⟩ := World.storage_eq_iff.mp hstorage
  have hentries : w'.shelf.entries = changed.shelf.entries := by
    rw [hshelf, CustomResponses.written_shelf]
  refine ⟨hentries, ?_⟩
  rw [hentries, hfiles]
  exact CustomResponses.load_written note (CustomResponses.updated name body) hwritable hchanged

/-- What is typed is what is stored and what is loaded again, and nothing else changes: the other responses of the channel and
the other channels are as they were, in their order. The responses a bot has at any time are well formed: those it loads are
(`Entries.wellFormed_of_load`), and messages keep them so (`IsFull.wellFormed_after`). No text holds half a character, which is
what `Writable` asks of the runtime. -/
theorem typed_response_is_stored (settings : Settings) (started : τ) :
    ∃ bot, full settings started = .ok bot ∧ ∀ (w : World τ) (m : Message) (op : CustomResponses.Operation)
      (name body : Text) (c : Char) (keys : List Text),
      w.Writable → w.shelf.entries.WellFormed → m.isElevated = true →
      m.content = settings.leader :: (op.name ++ ' ' :: (name ++ ' ' :: body)) →
      name.head? = some c → Text.isBlank c = false → ' ' ∉ name →
      body ≠ [] → CustomResponses.isChatCommand body = false → Template.keys body = .ok keys →
      StoresOn w.shelf.entries m.channel name op →
      let entries := w.shelf.entries
      let w' := (bot.handle m w).2.1
      w'.shelf.entries.get? m.channel name = some ⟨name, body⟩ ∧
        (∀ c, (w'.shelf.entries.commands c).filter (fun r => (c, r.1) ≠ (m.channel, name)) =
          (entries.commands c).filter fun r => (c, r.1) ≠ (m.channel, name)) ∧
        (Assoc.keys w'.shelf.entries).filter (· ≠ m.channel) = (Assoc.keys entries).filter (· ≠ m.channel) ∧
        Entries.load w.runtime w'.files w.shelf.path = .ok (w'.shelf.entries, []) := by
  obtain ⟨bot, hfull⟩ : ∃ bot, full settings started = .ok bot := ⟨_, full_eq_ok settings started⟩
  obtain ⟨rfl, hbot⟩ := isFull_of_full hfull
  refine ⟨bot, hfull, ?_⟩
  intro w m op name body c keys hw hwell helevated hcontent hhead hc hspace hbody hguard hkeys hstores
  have hop : op ≠ .remove := by
    rcases hstores with rfl | ⟨rfl, -⟩ | ⟨rfl, -⟩ <;> simp
  obtain ⟨s, -, hroute⟩ := hbot.route_of_storing_line hop helevated hcontent hhead hc hspace hbody
  obtain ⟨hentries, hload⟩ := hbot.handle_of_storing hw hwell hroute hbody hguard hkeys hstores
  refine ⟨?_, ?_, ?_, hload⟩
  · rw [hentries, Entries.get?_set_self]
  · intro other
    rw [hentries, Entries.commands_set]
  · rw [hentries, Entries.channels_set]

/-- A moderator replaces one of two responses; the new body begins with a space and has quotes, a placeholder and a line feed. -/
theorem typed_response_is_stored_of_edit :
    let body : Text := " say \"hi\",\n$\x7bname\x7d"
    let m : Message := ⟨"#lobby", "mod", "!edit hi " ++ body, ["moderator"], "console", "1"⟩
    let entries : Entries := [("#lobby", [("hi", ⟨"hi", "hello"⟩), ("bye", ⟨"bye", "so long"⟩)])]
    let w : World Milliseconds :=
      { files := ⟨[]⟩, clock := ⟨0⟩, replies := [], draws := [], shelf := ⟨.ofText "commands.json", entries, false⟩,
        lastChatter := none }
    w.Writable ∧ entries.WellFormed ∧ StoresOn entries "#lobby" "hi" .edit ∧
      ∃ bot, full Settings.standard ⟨0⟩ = .ok bot ∧
        (bot.handle m w).2.1.shelf.entries.get? "#lobby" "hi" = some ⟨"hi", body⟩ := by
  intro body m entries w
  have hw : w.Writable := ⟨rfl, by simp [w], fun _ => rfl, .empty, _, rfl⟩
  have hhi : Template.compile "hi" "hello" = .ok ⟨"hi", "hello"⟩ := rfl
  have hbye : Template.compile "bye" "so long" = .ok ⟨"bye", "so long"⟩ := rfl
  have hone : Entries.WellFormed (Entries.set [] "#lobby" "hi" ⟨"hi", "hello"⟩) := Entries.wellFormed_nil.set hhi
  have htwo : Entries.WellFormed (Entries.set _ "#lobby" "bye" ⟨"bye", "so long"⟩) := hone.set hbye
  have hwell : entries.WellFormed := htwo
  have hstores : StoresOn entries "#lobby" "hi" .edit := .inr (.inr ⟨rfl, rfl⟩)
  obtain ⟨bot, hfull, hstored⟩ := typed_response_is_stored Settings.standard (⟨0⟩ : Milliseconds)
  have hresult := hstored w m .edit "hi" body 'h' ["name"] hw hwell rfl rfl rfl rfl (by decide) (by decide) rfl (by decide)
    hstores
  exact ⟨hw, hwell, hstores, bot, hfull, hresult.1⟩

/-- A response was loaded that is half a character. The next one that a moderator sets is in memory only: the file is empty, and
nothing is loaded from it. -/
theorem typed_response_is_lost_beside_half_a_character :
    let path := FilePath.ofText "commands.json"
    let text : Text := "\x7b\"#b\": \x7b\"commands\": \x7b\"x\": \"\\ud800\"\x7d\x7d\x7d"
    let files : FileSystem := ⟨[(path, .file (FileSystem.encode text))]⟩
    let entries : Entries := [("#b", [("x", ⟨"x", [Runtime.withHalves.half 0xD800]⟩)])]
    let m : Message := ⟨"#b", "mod", "!set hi hello", ["moderator"], "console", "1"⟩
    let w : World Milliseconds :=
      { files, clock := ⟨0⟩, replies := [], draws := [], shelf := ⟨path, entries, false⟩, lastChatter := none,
        runtime := .withHalves }
    Entries.load .withHalves files path = .ok (entries, []) ∧
      (∃ written, files.put path (.file (FileSystem.encode "hello")) = .ok written) ∧
      ∃ bot, full Settings.standard ⟨0⟩ = .ok bot ∧
        (bot.handle m w).2.1.shelf.entries.get? "#b" "hi" = some ⟨"hi", "hello"⟩ ∧
        (bot.handle m w).2.1.files.textAt? path = some [] ∧
        ∃ notes, Entries.load .withHalves (bot.handle m w).2.1.files path = .ok ([], notes) := by
  intro path text files entries m w
  have hread : Json.read .withHalves text = .ok (.object [("#b", .object [("commands", .object [("x", .string
      [Runtime.withHalves.half 0xD800])])])]) := by
    clear w m entries files path
    subst text
    cbv
  have hnode : files.node? path = .ok (some (.file (FileSystem.encode text))) := rfl
  have hload : Entries.load .withHalves files path = .ok (entries, []) := by
    rw [Entries.load, hnode]
    simp only [FileSystem.readText?_encode (by decide : '\r' ∉ text), Entries.ofFileText, hread]
    rfl
  obtain ⟨bot, hfull, hstored, hempty⟩ : ∃ bot, full Settings.standard (⟨0⟩ : Milliseconds) = .ok bot ∧
      (bot.handle m w).2.1.shelf.entries.get? "#b" "hi" = some ⟨"hi", "hello"⟩ ∧
      (bot.handle m w).2.1.files.textAt? path = some [] :=
    ⟨_, full_eq_ok Settings.standard _, by decide +kernel, by decide +kernel⟩
  have hnothing : Entries.load .withHalves (bot.handle m w).2.1.files path = .ok ([], _) :=
    (Entries.load_of_textAt? hempty).trans rfl
  exact ⟨hload, ⟨_, rfl⟩, bot, hfull, hstored, hempty, _, hnothing⟩

end Bot
end ChatBot
