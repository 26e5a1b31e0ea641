import ChatBot.Proofs.Json.Spelling
import ChatBot.Proofs.Storage.Loading
import ChatBot.Proofs.Template.Substitution

/-!
The templates that are kept. Loading takes from a document as it is written, where members may share a name, the last of them in
the place of the first, and leaves out what has not the shape of a channel or of a response, and every body that is not well
formed. Changes keep it so: a template stands under its own name, its body is well formed, and so applying it cannot go wrong.
-/
set_option autoImplicit false

namespace ChatBot.Storage

namespace Entries

/-! ## Documents as they are written -/

/-- The members of a channel's `commands` as they are written, if the channel has the shape of one. Of several members
named `commands` the last counts. -/
def writtenCommands? : Json → Option (List (Text × Json))
  | .object members =>
    match Assoc.latest? members commandsMember with
    | some (.object commands) => some commands
    | _ => none
  | _ => none

/-- The responses in a document as it is written. -/
def ofWritten : Json → Entries
  | .object members => (Assoc.settled members).filterMap fun m =>
      (writtenCommands? m.2).map fun commands => (m.1, (Assoc.settled commands).filterMap responseOf?)
  | _ => []

theorem ofList_settledMembers (ms : List (Text × Json)) :
    Assoc.ofList (Json.settledMembers ms) = (Assoc.settled ms).map (Prod.map id Json.settled) := by
  rw [Json.settledMembers_eq_map, ← Assoc.map_ofList, Assoc.ofList_eq_settled]

theorem member?_eq_find? (members : List (Text × Json)) (name : Text) :
    Json.member? members name = Assoc.find? members name := by
  induction members with
  | nil => rfl
  | cons m members ih => rw [Json.member?, Assoc.find?, ih]

theorem text?_settled (v : Json) : v.settled.text? = v.text? := by
  cases v <;> rfl

theorem responseOf?_settled (m : Text × Json) : responseOf? (Prod.map id Json.settled m) = responseOf? m := by
  simp only [responseOf?, Prod.map_fst, Prod.map_snd, text?_settled, id_eq]

theorem commandsOf?_settled (v : Json) :
    commandsOf? v.settled = (writtenCommands? v).map fun commands => Assoc.ofList (Json.settledMembers commands) := by
  cases v with
  | object members =>
    rw [Json.settled, commandsOf?, writtenCommands?, member?_eq_find?, ofList_settledMembers, Assoc.find?_map,
      ← Assoc.ofList_eq_settled, Assoc.find?_ofList]
    cases Assoc.latest? members commandsMember with
    | none => rfl
    | some v => cases v <;> rfl
  | _ => rfl

theorem filterMap_responseOf?_settled (commands : List (Text × Json)) :
    (Assoc.ofList (Json.settledMembers commands)).filterMap responseOf? = (Assoc.settled commands).filterMap responseOf? := by
  rw [ofList_settledMembers, List.filterMap_map]
  exact List.filterMap_congr fun m _ => responseOf?_settled m

theorem ofDocument_settled (written : Json) : (ofDocument written.settled).1 = ofWritten written := by
  cases written with
  | object members =>
    rw [Json.settled, ofDocument, ofMembers_fst, ofList_settledMembers, List.filterMap_map, ofWritten]
    apply List.filterMap_congr
    intro m _
    simp only [Function.comp_apply, channelOf?, Prod.map_fst, Prod.map_snd, commandsOf?_settled, Option.map_map, id_eq]
    exact Option.map_congr fun commands _ => congrArg (Prod.mk m.1) (filterMap_responseOf?_settled commands)
  | _ => rfl

/-! ## What is loaded -/

/-- At the path stands a file with this text, and the text is read as a document. -/
def HoldsDocument (runtime : Runtime) (fs : FileSystem) (p : FilePath) (text : Text) : Prop :=
  ∃ bytes document, fs.node? p = .ok (some (.file bytes)) ∧ FileSystem.readText? bytes = some text ∧
    Json.read runtime text = .ok document

variable {runtime : Runtime} {fs : FileSystem} {p : FilePath} {entries : Entries} {notes : List Note}

theorem exists_written_of_load {text : Text} (hload : load runtime fs p = .ok (entries, notes))
    (hholds : HoldsDocument runtime fs p text) :
    ∃ written, (∀ v, Json.Writes runtime text v ↔ v = written) ∧ entries = ofWritten written := by
  obtain ⟨bytes, document, hnode, htext, hread⟩ := hholds
  obtain ⟨written, rfl, hwritten⟩ := Json.exists_writes_of_read hread
  refine ⟨written, hwritten, ?_⟩
  rw [load_of_text hnode htext, ofFileText, hread] at hload
  rw [← ofDocument_settled]
  exact (Prod.mk.inj (Except.ok.inj hload)).1.symm

theorem eq_nil_of_no_document (hload : load runtime fs p = .ok (entries, notes))
    (hnone : ∀ text, ¬ HoldsDocument runtime fs p text) : entries = [] := by
  cases hnode : fs.node? p with
  | error fault =>
    rw [load, hnode] at hload
    cases hload
  | ok node =>
    refine eq_nil_of_load hnode hload ?_
    rintro ⟨bytes, text, members, rfl, htext, hread⟩
    exact hnone text ⟨bytes, _, hnode, htext, hread⟩

end Entries

/-! ## What stays -/

theorem exists_filled_of_keys {template : Template} {ks : List Text} (hkeys : Template.keys template.body = .ok ks)
    {σ ε : Type} {env : Template.Environment (StateT σ (Except ε))} (henv : env.Answers) :
    ∃ filled, template.apply env = .ok filled ∧ ∀ s, ∃ text s', filled.run s = .ok (text, s') := by
  refine ⟨env.fill ks.eraseDups template.body, ?_, fun s => ?_⟩
  · rw [Template.apply, hkeys]
    rfl
  · obtain ⟨found, s', hfound⟩ := henv.exists_resolves ks.eraseDups s
    exact ⟨_, s', hfound.run_fill template.body⟩

namespace Shelf
variable {ι τ : Type} [DecidableEq ι]

theorem wellFormed_of_run {runtime : Runtime} {files : FileSystem} {path : FilePath} {notes : List Note} (w : World τ)
    (hload : Entries.load runtime files path = .ok (w.shelf.entries, notes)) (changes : ι → Change) (schedule : List ι) :
    ((Pool.start w changes).run schedule).world.shelf.entries.WellFormed := by
  obtain ⟨s, hrun, hs⟩ := Situation.exists_sound_of_run changes w schedule
  rw [hrun, Situation.pool, hs.accounted.memory]
  exact (Entries.wellFormed_of_load hload).foldl_applied? changes _

/-- What is loaded is exactly what a document holds as it is written, and nothing where there is no document. From there on,
whatever calls change the responses, in turns of any order and whether they end well or not, every template that is kept has
the name it is kept under and a body that is well formed. Applying it succeeds wherever the values of its environment do. -/
theorem stored_templates_are_well_formed {runtime : Runtime} {files : FileSystem} {path : FilePath} {notes : List Note} (w : World τ)
    (hload : Entries.load runtime files path = .ok (w.shelf.entries, notes)) (changes : ι → Change) (schedule : List ι) :
    (∀ text, Entries.HoldsDocument runtime files path text →
      ∃ written, (∀ v, Json.Writes runtime text v ↔ v = written) ∧ w.shelf.entries = Entries.ofWritten written) ∧
    ((∀ text, ¬ Entries.HoldsDocument runtime files path text) → w.shelf.entries = []) ∧
    ∀ b ∈ ((Pool.start w changes).run schedule).world.shelf.entries, ∀ r ∈ b.2,
      r.2.name = r.1 ∧ (∃ keys, Template.keys r.2.body = .ok keys) ∧
      ∀ {σ ε : Type} (env : Template.Environment (StateT σ (Except ε))), env.Answers →
        ∃ filled, r.2.apply env = .ok filled ∧ ∀ s, ∃ text s', filled.run s = .ok (text, s') := by
  refine ⟨fun text => Entries.exists_written_of_load hload, Entries.eq_nil_of_no_document hload, fun b hb r hr => ?_⟩
  have hcompiled := ((wellFormed_of_run w hload changes schedule).channels b hb).compiled r hr
  have hname : r.2.name = r.1 := congrArg Template.name (Template.compile_eq_ok hcompiled)
  cases hkeys : Template.keys r.2.body with
  | error error =>
    rw [Template.compile, hkeys] at hcompiled
    cases hcompiled
  | ok keys => exact ⟨hname, ⟨keys, rfl⟩, fun env henv => exists_filled_of_keys hkeys henv⟩

/-- A channel and a name in it stand twice in the file, next to a body that is not well formed. One call sets another such body,
another call cannot write what it set; what is kept can be filled in with a counter. -/
theorem stored_templates_are_well_formed_with_repeated_names :
    let text : Text := "\x7b\"#a\":\"\",\"#b\":\x7b\"commands\":\x7b\"hi\":\"old\",\"hi\":\"$\x7bn\x7d\"\x7d\x7d," ++
      "\"#a\":\x7b\"commands\":\x7b\"bad\":\"$\x7b\"\x7d\x7d\x7d"
    let path := FilePath.ofText "commands.json"
    let files : FileSystem := ⟨[(path, .file (FileSystem.encode text))]⟩
    let loaded : Entries := [("#a", []), ("#b", [("hi", ⟨"hi", "$\x7bn\x7d"⟩)])]
    let w : World Unit :=
      { files, clock := (), replies := [], draws := [], shelf := ⟨path, loaded, false⟩, lastChatter := none,
        refusals := [some (.opening .missing)] }
    let changes : Bool → Change := fun i => if i then .set "#a" "x" "$\x7bn\x7d!" else .set "#b" "hi" "$\x7b\x7d"
    let counter : Template.Environment (StateT ℕ (Except Unit)) := [("n", .computed fun n => .ok (.int n, n + 1))]
    (∃ notes, Entries.load .plain files path = .ok (loaded, notes)) ∧
      (∃ written, (∀ v, Json.Writes .plain text v ↔ v = written) ∧ loaded = Entries.ofWritten written) ∧
      ∀ b ∈ ((Pool.start w changes).run [true, false, true, true]).world.shelf.entries, ∀ r ∈ b.2,
        r.2.name = r.1 ∧ ∃ filled, r.2.apply counter = .ok filled ∧ ∀ s, ∃ text s', filled.run s = .ok (text, s') := by
  intro text path files loaded w changes counter
  have hread : Json.read .plain text = .ok (.object [("#a", .object [("commands", .object [("bad", .string "$\x7b")])]),
      ("#b", .object [("commands", .object [("hi", .string "$\x7bn\x7d")])])]) := by
    clear counter changes w loaded files path
    subst text
    cbv
  have hnode : files.node? path = .ok (some (.file (FileSystem.encode text))) := rfl
  have htext : FileSystem.readText? (FileSystem.encode text) = some text :=
    FileSystem.readText?_encode (by decide : '\r' ∉ text)
  have hload : Entries.load .plain files path = .ok (loaded, [Skipped.note ⟨"#a", "bad", .unterminated⟩]) := by
    rw [Entries.load_of_text hnode htext, Entries.ofFileText, hread]
    rfl
  have hcounter : counter.Answers := by
    intro key value hfind s
    refine ⟨.int s, s + 1, ?_⟩
    simp only [counter, Assoc.find?] at hfind
    split at hfind
    · obtain rfl := Template.Resolvable.computed.inj (Option.some.inj hfind)
      rfl
    · cases hfind
  obtain ⟨hwritten, -, hstored⟩ := stored_templates_are_well_formed w hload changes [true, false, true, true]
  refine ⟨⟨_, hload⟩, hwritten text ⟨_, _, hnode, htext, hread⟩, fun b hb r hr => ?_⟩
  obtain ⟨hname, -, hfills⟩ := hstored b hb r hr
  exact ⟨hname, hfills counter hcounter⟩

/-- Two halves that do not fit are two names; a half and its other half are one character. -/
example :
    let text : Text := "\x7b\"#a\":\x7b\"commands\":\x7b\"\\ud800\":\"x\",\"\\udc00\":\"y\",\"\\ud83d\\ude00\":\"z\"\x7d\x7d\x7d"
    let path := FilePath.ofText "commands.json"
    let files : FileSystem := ⟨[(path, .file (FileSystem.encode text))]⟩
    ((Entries.load .withHalves files path).toOption.map fun loaded => loaded.1.commands "#a") =
      some [([Runtime.withHalves.half 0xD800], ['x']), ([Runtime.withHalves.half 0xDC00], ['y']), (['😀'], ['z'])] := by
  decide +kernel

end Shelf

end ChatBot.Storage
