import ChatBot.Proofs.Json.Limits
import ChatBot.Proofs.Storage.Reload

/-!
What loading makes of whatever stands at the path. A file that is no document is noted and counts as empty, but not every
content gets as far: bytes that are no text, and texts beyond a limit of reading, keep the responses from being loaded at all.
-/
set_option autoImplicit false

namespace ChatBot.Storage.Entries

/-- What keeps responses from being loaded, and the fault it makes. -/
inductive Obstacle (runtime : Runtime) : Option FileNode → Fault → Prop
  | bytes {bytes : ByteArray} : FileSystem.decode? bytes = none → Obstacle runtime (some (.file bytes)) .encoding
  | limit {bytes : ByteArray} {text : Text} {failure : Json.Failure} {fault : Fault} :
      FileSystem.readText? bytes = some text → Json.read runtime text = .error failure →
      Fault.ofLimit? failure = some fault → Obstacle runtime (some (.file bytes)) fault

/-- Whether a text holds more than reading has to cope with: too many openings, or a row of too many digits. -/
def IsOversized (runtime : Runtime) (text : Text) : Prop :=
  runtime.deepestNesting < Json.openings text ∨ ∃ n, Decimal.mostDigits < n ∧ Json.HasDigits text n

/-- Whether there is a file whose text is a JSON object. -/
def HoldsObject (runtime : Runtime) (node : Option FileNode) : Prop :=
  ∃ bytes text members, node = some (.file bytes) ∧ FileSystem.readText? bytes = some text ∧
    Json.read runtime text = .ok (.object members)

variable {runtime : Runtime} {fs : FileSystem} {p : FilePath} {node : Option FileNode} {entries : Entries} {notes : List Note}
  {text : Text}

theorem isOversized_of_ofLimit? {failure : Json.Failure} {fault : Fault} (hread : Json.read runtime text = .error failure)
    (hfault : Fault.ofLimit? failure = some fault) : IsOversized runtime text := by
  have hcause := Json.warrants_of_read hread
  obtain ⟨violation, left⟩ := failure
  cases violation with
  | deepNesting => exact .inl hcause
  | longNumber n => exact .inr ⟨n, hcause⟩
  | _ => cases hfault

theorem ofFileText_eq_error_iff {fault : Fault} : ofFileText runtime p text = .error fault ↔
    ∃ failure, Json.read runtime text = .error failure ∧ Fault.ofLimit? failure = some fault := by
  unfold ofFileText
  cases hread : Json.read runtime text with
  | ok document => simp
  | error failure =>
    cases hlimit : Fault.ofLimit? failure with
    | none => simp [hlimit]
    | some limit => simp [hlimit]

theorem eq_nil_of_ofFileText (h : ofFileText runtime p text = .ok (entries, notes))
    (hobject : ∀ members, Json.read runtime text ≠ .ok (.object members)) : entries = [] := by
  unfold ofFileText at h
  cases hread : Json.read runtime text with
  | error failure =>
    rw [hread] at h
    dsimp only at h
    split at h
    · cases h
    · exact (Prod.mk.inj (Except.ok.inj h)).1.symm
  | ok document =>
    rw [hread] at h
    cases document with
    | object members => exact absurd hread (hobject members)
    | _ => exact (Prod.mk.inj (Except.ok.inj h)).1.symm

theorem load_of_undecodable {bytes : ByteArray} (hnode : fs.node? p = .ok (some (.file bytes)))
    (hbytes : FileSystem.decode? bytes = none) : load runtime fs p = .error .encoding := by
  rw [load, hnode]
  simp only [FileSystem.readText?, hbytes, Option.map_none]

theorem load_of_text {bytes : ByteArray} (hnode : fs.node? p = .ok (some (.file bytes)))
    (htext : FileSystem.readText? bytes = some text) : load runtime fs p = ofFileText runtime p text := by
  rw [load, hnode]
  simp only [htext]

theorem load_of_textAt? (htext : fs.textAt? p = some text) : load runtime fs p = ofFileText runtime p text := by
  rw [FileSystem.textAt?] at htext
  split at htext
  · rename_i hnode
    exact load_of_text hnode htext
  · cases htext

theorem load_of_no_file (hnode : fs.node? p = .ok node) (hfile : ∀ bytes, node ≠ some (.file bytes)) :
    ∃ notes, load runtime fs p = .ok ([], notes) := by
  rw [load, hnode]
  cases node with
  | none => exact ⟨_, rfl⟩
  | some there =>
    cases there with
    | directory => exact ⟨_, rfl⟩
    | file bytes => exact absurd rfl (hfile bytes)

/-- What stands at a path has one of three kinds of content: none, bytes that are no text, and text. -/
theorem content_cases (node : Option FileNode) :
    (∀ bytes, node ≠ some (.file bytes)) ∨
      ∃ bytes, node = some (.file bytes) ∧
        (FileSystem.decode? bytes = none ∨ ∃ text, FileSystem.readText? bytes = some text) := by
  rcases node with _ | _ | bytes
  · exact .inl fun bytes h => nomatch h
  · exact .inl fun bytes h => nomatch h
  · refine .inr ⟨bytes, rfl, ?_⟩
    cases hbytes : FileSystem.decode? bytes with
    | none => exact .inl rfl
    | some text => exact .inr ⟨_, by rw [FileSystem.readText?, hbytes, Option.map_some]⟩

theorem load_eq_error_iff (hnode : fs.node? p = .ok node) {fault : Fault} :
    load runtime fs p = .error fault ↔ Obstacle runtime node fault := by
  constructor
  · intro hload
    rcases content_cases node with hfile | ⟨bytes, rfl, hbytes | ⟨text, htext⟩⟩
    · obtain ⟨notes, hempty⟩ := load_of_no_file hnode hfile
      rw [hempty] at hload
      cases hload
    · rw [load_of_undecodable hnode hbytes] at hload
      obtain rfl := Except.error.inj hload
      exact .bytes hbytes
    · rw [load_of_text hnode htext, ofFileText_eq_error_iff] at hload
      obtain ⟨failure, hread, hfault⟩ := hload
      exact .limit htext hread hfault
  · intro hobstacle
    cases hobstacle with
    | bytes hbytes => exact load_of_undecodable hnode hbytes
    | limit htext hread hfault =>
      rw [load_of_text hnode htext]
      exact ofFileText_eq_error_iff.mpr ⟨_, hread, hfault⟩

theorem eq_nil_of_load (hnode : fs.node? p = .ok node) (hload : load runtime fs p = .ok (entries, notes))
    (hobject : ¬ HoldsObject runtime node) : entries = [] := by
  rcases content_cases node with hfile | ⟨bytes, rfl, hbytes | ⟨text, htext⟩⟩
  · obtain ⟨notes', hempty⟩ := load_of_no_file hnode hfile
    rw [hempty] at hload
    exact (Prod.mk.inj (Except.ok.inj hload)).1.symm
  · rw [load_of_undecodable hnode hbytes] at hload
    cases hload
  · rw [load_of_text hnode htext] at hload
    exact eq_nil_of_ofFileText hload fun members hread => hobject ⟨bytes, text, members, rfl, htext, hread⟩

/-- Loading fails exactly for bytes that are no text and for texts that are read up to a limit. So it succeeds when nothing
stands at the path, when a directory does, and for every file of text without too many openings and too many digits in a row.
What is no object of JSON leaves every channel empty, if it is loaded. -/
theorem load_outcome (hnode : fs.node? p = .ok node) :
    (∀ fault, load runtime fs p = .error fault ↔ Obstacle runtime node fault) ∧
    ((∀ bytes, node = some (.file bytes) → ∃ text, FileSystem.readText? bytes = some text ∧ ¬ IsOversized runtime text) →
      ∃ entries notes, load runtime fs p = .ok (entries, notes)) ∧
    ∀ entries notes, load runtime fs p = .ok (entries, notes) → ¬ HoldsObject runtime node → ∀ c, entries.commands c = [] := by
  refine ⟨fun fault => load_eq_error_iff hnode, ?_, ?_⟩
  · intro hfile
    cases hload : load runtime fs p with
    | ok loaded => exact ⟨loaded.1, loaded.2, rfl⟩
    | error fault =>
      have hobstacle : Obstacle runtime node fault := (load_eq_error_iff hnode).mp hload
      cases hobstacle with
      | bytes hbytes =>
        obtain ⟨text, htext, -⟩ := hfile _ rfl
        rw [FileSystem.readText?, hbytes] at htext
        cases htext
      | limit htext hread hfault =>
        obtain ⟨text, htext', hsize⟩ := hfile _ rfl
        obtain rfl := Option.some.inj (htext.symm.trans htext')
        exact absurd (isOversized_of_ofLimit? hread hfault) hsize
  · intro entries notes hload hobject c
    obtain rfl := eq_nil_of_load hnode hload hobject
    rfl

/-- A text that breaks off after an opening brace is short of every limit and no document: it is loaded as no responses. -/
theorem load_outcome_of_broken_document :
    let text : Text := "\x7bnot json"
    let path := FilePath.ofText "commands.json"
    let files : FileSystem := ⟨[(path, .file (FileSystem.encode text))]⟩
    files.node? path = .ok (some (.file (FileSystem.encode text))) ∧
      ∃ entries notes, load .plain files path = .ok (entries, notes) ∧ ∀ c, entries.commands c = [] := by
  intro text path files
  have hnode : files.node? path = .ok (some (.file (FileSystem.encode text))) := rfl
  have htext : FileSystem.readText? (FileSystem.encode text) = some text :=
    FileSystem.readText?_encode (by decide : '\r' ∉ text)
  have hread : Json.read .plain text = .error ⟨.memberName, 8⟩ := by
    clear htext hnode files path
    subst text
    cbv
  have hsize : ¬ IsOversized .plain text := by
    rintro (hdeep | ⟨n, hlong, digits, hdigits, -, rfl⟩)
    · exact absurd hdeep (by decide)
    · have hlength : digits.length ≤ text.length := hdigits.length_le
      exact absurd (Nat.lt_of_lt_of_le hlong hlength) (by decide)
  have hobject : ¬ HoldsObject .plain (some (.file (FileSystem.encode text))) := by
    rintro ⟨bytes, text', members, hfile, htext', hobject⟩
    obtain rfl := FileNode.file.inj (Option.some.inj hfile)
    obtain rfl := Option.some.inj (htext.symm.trans htext')
    rw [hread] at hobject
    cases hobject
  obtain ⟨-, hsuccess, hempty⟩ := load_outcome hnode
  have hcontent : ∀ bytes, some (FileNode.file (FileSystem.encode text)) = some (.file bytes) →
      ∃ text, FileSystem.readText? bytes = some text ∧ ¬ IsOversized .plain text := by
    intro bytes hfile
    obtain rfl := FileNode.file.inj (Option.some.inj hfile)
    exact ⟨text, htext, hsize⟩
  obtain ⟨entries, notes, hload⟩ := hsuccess hcontent
  exact ⟨hnode, entries, notes, hload, hempty entries notes hload hobject⟩

/-- One byte that begins no character keeps the responses from being loaded. -/
theorem load_fails_of_stray_byte :
    let path := FilePath.ofText "commands.json"
    let files : FileSystem := ⟨[(path, .file ⟨#[0xff]⟩)]⟩
    files.node? path = .ok (some (.file ⟨#[0xff]⟩)) ∧ load .plain files path = .error .encoding ∧
      ¬ ∃ entries notes, load .plain files path = .ok (entries, notes) := by
  intro path files
  have hnode : files.node? path = .ok (some (.file ⟨#[0xff]⟩)) := rfl
  have hbytes : FileSystem.decode? ⟨#[0xff]⟩ = none := by decide +kernel
  have hload : load .plain files path = .error .encoding := load_of_undecodable hnode hbytes
  refine ⟨hnode, hload, ?_⟩
  rintro ⟨entries, notes, h⟩
  rw [hload] at h
  cases h

end ChatBot.Storage.Entries
