import ChatBot.Proofs.Storage.FileSystem
import ChatBot.Storage.Shelf

/-!
The turns of a call that changes custom responses. In its first turn a call changes the responses in memory, or ends; then it
waits for the right to write, takes what it will write, and writes it.
-/
set_option autoImplicit false

namespace ChatBot.Storage.Shelf
variable {τ : Type}

/-! ## Calls -/

/-- A change of custom responses that a call asks for. -/
inductive Change where
  | set (channel name body : Text)
  | remove (channel name : Text)

namespace Change

/-- The responses after the change. There are none when the body is not well formed or there is nothing to remove. -/
def applied? (entries : Entries) : Change → Option Entries
  | set channel name body =>
    match Template.compile name body with
    | .ok template => some (entries.set channel name template)
    | .error _ => none
  | remove channel name => if (entries.get? channel name).isSome then some (entries.remove channel name) else none

def refusal : Change → Except Fault Bool
  | set _ name body =>
    match Template.compile name body with
    | .ok _ => .ok false
    | .error error => .error (.template error)
  | remove _ _ => .ok false

/-- The call; it tells whether it changed anything. -/
def call : Change → Program (World τ) Bool
  | set channel name body => do
    Shelf.set channel name body
    return true
  | remove channel name => Shelf.remove channel name

end Change

/-! ## Writes -/

/-- What stands where the responses are kept. -/
def onDisk (w : World τ) : Except FileFault (Option FileNode) := w.files.node? w.shelf.path

theorem nextRefusal_keeps {w w' : World τ} {refusal : Option FileSystem.Refusal} (h : w.nextRefusal = (refusal, w')) :
    w'.shelf = w.shelf ∧ w'.files = w.files ∧ w'.runtime = w.runtime ∧ w'.refusals ⊆ w.refusals := by
  rw [World.nextRefusal] at h
  split at h
  · obtain ⟨-, rfl⟩ := Prod.mk.inj h
    exact ⟨rfl, rfl, rfl, List.Subset.refl _⟩
  · rename_i hrefusals
    obtain ⟨-, rfl⟩ := Prod.mk.inj h
    exact ⟨rfl, rfl, rfl, hrefusals ▸ List.subset_cons_self _ _⟩

theorem nextRefusal_fst (w : World τ) : w.nextRefusal.1 = w.refusals.head?.join := by
  rw [World.nextRefusal]
  split
  · rename_i hrefusals
    rw [hrefusals]
    rfl
  · rename_i hrefusals
    rw [hrefusals]
    rfl

theorem mem_of_nextRefusal {w : World τ} {refusal : FileSystem.Refusal} (h : w.nextRefusal.1 = some refusal) :
    some refusal ∈ w.refusals := by
  rw [nextRefusal_fst, Option.join_eq_some_iff] at h
  exact List.mem_of_head? h

/-- Failing writes leave the file as it was: none breaks off once the file is open, and no character stands for a half. -/
structure KeepsFile (w : World τ) : Prop where
  whole : ∀ c, w.runtime.isHalf c = false
  unbroken : ∀ fault count, some (.writing fault count) ∉ w.refusals

theorem KeepsFile.eq_of_leaves {w : World τ} {t : Text} {before after : Except FileFault (Option FileNode)} {fault : Fault}
    (hw : KeepsFile w) (h : FileSystem.Leaves w.runtime t w.nextRefusal.1 before after fault) : after = before := by
  cases h with
  | unopened _ => rfl
  | emptied _ hhalf =>
    rw [hw.whole] at hhalf
    cases hhalf
  | cut hrefusal => exact absurd (mem_of_nextRefusal hrefusal) (hw.unbroken _ _)

/-- A write ends in one of two ways. Either gives back the right to write and leaves the responses in memory alone. -/
theorem finishWrite_cases (entries : Entries) (w : World τ) :
    ∃ w' : World τ, w'.shelf = { w.shelf with writing := false } ∧ (KeepsFile w → KeepsFile w') ∧
      ((finishWrite entries w = (.ok (), w') ∧ onDisk w' = .ok (some entries.file)) ∨
        ∃ fault, finishWrite entries w = (.error fault, w') ∧
          FileSystem.Leaves w.runtime (Json.print entries.document) w.nextRefusal.1 (onDisk w) (onDisk w') fault) := by
  cases hrefusal : w.nextRefusal with
  | mk refusal next =>
    obtain ⟨hshelf, hfiles, hruntime, hrefusals⟩ := nextRefusal_keeps hrefusal
    have hkeeps : ∀ files, KeepsFile w → KeepsFile { next.withWriting false with files } := by
      intro files hw
      refine ⟨fun c => ?_, fun fault count hmem => hw.unbroken fault count (hrefusals hmem)⟩
      change next.runtime.isHalf c = false
      rw [hruntime]
      exact hw.whole c
    rcases next.files.writeText_cases next.runtime next.shelf.path (Json.print entries.document) refusal with
      ⟨files, hsave, -, hput⟩ | ⟨fault, files, hsave, hleaves⟩
    · refine ⟨{ next.withWriting false with files }, by rw [World.withWriting, hshelf], hkeeps files, .inl ⟨?_, ?_⟩⟩
      · simp only [finishWrite, hrefusal, Entries.save, hsave]
      · exact FileSystem.node?_of_put hput
    · refine ⟨{ next.withWriting false with files }, by rw [World.withWriting, hshelf], hkeeps files, .inr ⟨fault, ?_, ?_⟩⟩
      · simp only [finishWrite, hrefusal, Entries.save, hsave]
      · rw [← hruntime, onDisk, ← hfiles, ← hshelf]
        exact hleaves

/-- The faults that keep responses from being written. -/
inductive WriteFault : Fault → Prop
  | refused (fault : FileFault) : WriteFault (.file fault)
  | noPath : WriteFault FileSystem.zeroCharacter
  | half : WriteFault .unencodable

theorem writeFault_of_leaves {runtime : Runtime} {t : Text} {refusal : Option FileSystem.Refusal}
    {before after : Except FileFault (Option FileNode)} {fault : Fault}
    (h : FileSystem.Leaves runtime t refusal before after fault) : WriteFault fault := by
  cases h with
  | unopened hfault =>
    cases hfault with
    | refused fault => exact .refused fault
    | noPath => exact .noPath
  | emptied _ _ => exact .half
  | cut _ => exact .refused _

theorem finishWrite_fst (entries : Entries) (w : World τ) :
    (finishWrite entries w).1 = .ok () ∨ ∃ fault, WriteFault fault ∧ (finishWrite entries w).1 = .error fault := by
  obtain ⟨w', -, -, ⟨hwrite, -⟩ | ⟨fault, hwrite, hleaves⟩⟩ := finishWrite_cases entries w
  · exact .inl (congrArg Prod.fst hwrite)
  · exact .inr ⟨fault, writeFault_of_leaves hleaves, congrArg Prod.fst hwrite⟩

theorem writeFault_of_finishWrite {entries : Entries} {w w' : World τ} {fault : Fault}
    (h : finishWrite entries w = (.error fault, w')) : WriteFault fault := by
  rcases finishWrite_fst entries w with hok | ⟨cause, hcause, herror⟩
  · rw [h] at hok
    cases hok
  · rw [h] at herror
    obtain rfl := Except.error.inj herror
    exact hcause

theorem finishWrite_shelf (entries : Entries) (w : World τ) :
    (finishWrite entries w).2.shelf = { w.shelf with writing := false } := by
  obtain ⟨w', hshelf, -, ⟨hwrite, -⟩ | ⟨fault, hwrite, -⟩⟩ := finishWrite_cases entries w
  · rw [hwrite, hshelf]
  · rw [hwrite, hshelf]

/-! ## Phases -/

/-- How far a call has come. -/
inductive Phase where
  | fresh
  | waiting
  | writing (entries : Entries)
  | ended (result : Except Fault Bool)

def Phase.program (change : Change) : Phase → Program (World τ) Bool
  | fresh => change.call
  | waiting => do
    Program.waitUntil (! ·.shelf.writing)
    let entries ← Program.update beginWrite
    Program.yield .write
    Program.ofExcept (← Program.update (finishWrite entries))
    return true
  | writing entries => do
    Program.ofExcept (← Program.update (finishWrite entries))
    return true
  | ended result => Program.ofExcept result

/-- Whether a call may be in a phase when its first turn came to this change of the responses, if to any. -/
def Phase.Fits : Phase → Option Entries → Prop
  | fresh, _ => False
  | waiting, changed => changed.isSome = true
  | writing _, changed => changed.isSome = true
  | ended (.ok result), changed => result = changed.isSome
  | ended (.error _), _ => True

theorem fits_refusal {change : Change} {entries : Entries} (h : change.applied? entries = none) :
    (Phase.ended change.refusal).Fits (change.applied? entries) := by
  rw [h]
  cases change with
  | set channel name body =>
    cases htemplate : Template.compile name body with
    | ok template => simp [Change.applied?, htemplate] at h
    | error error => simp only [Change.refusal, htemplate, Phase.Fits]
  | remove channel name => rfl

theorem refusal_ne_ok_true (change : Change) : change.refusal ≠ .ok true := by
  cases change with
  | set channel name body => cases htemplate : Template.compile name body <;> simp [Change.refusal, htemplate]
  | remove channel name => simp [Change.refusal]

/-! ## Turns -/

theorem slice_call_of_none {change : Change} {w : World τ} (h : change.applied? w.shelf.entries = none) :
    change.call.slice Program.everywhere w = ⟨[], w, (Phase.ended change.refusal).program change⟩ := by
  cases change with
  | set channel name body =>
    cases htemplate : Template.compile name body with
    | ok template => simp [Change.applied?, htemplate] at h
    | error error =>
      simp only [Phase.program, Change.call, Shelf.set, Change.refusal, htemplate]
      rfl
  | remove channel name =>
    have hmissing : ¬ (w.shelf.entries.get? channel name).isSome = true := by
      intro hthere
      simp [Change.applied?, hthere] at h
    have htake : takeOut channel name w = (false, w) := if_neg hmissing
    change Program.slice Program.everywhere (if (takeOut channel name w).1 = true then _ else _)
      (takeOut channel name w).2 = _
    rw [htake]
    rfl

theorem slice_call_of_some {change : Change} {w : World τ} {entries : Entries}
    (h : change.applied? w.shelf.entries = some entries) :
    change.call.slice Program.everywhere w = ⟨[], w.withEntries entries, Phase.waiting.program change⟩ := by
  cases change with
  | set channel name body =>
    cases htemplate : Template.compile name body with
    | ok template =>
      obtain rfl : w.shelf.entries.set channel name template = entries := by simpa [Change.applied?, htemplate] using h
      simp only [Phase.program, Change.call, Shelf.set, htemplate]
      rfl
    | error error => simp [Change.applied?, htemplate] at h
  | remove channel name =>
    have hthere : (w.shelf.entries.get? channel name).isSome = true := by
      cases hthere : (w.shelf.entries.get? channel name).isSome with
      | true => rfl
      | false => simp [Change.applied?, hthere] at h
    obtain rfl : w.shelf.entries.remove channel name = entries := by simpa [Change.applied?, hthere] using h
    have htake : takeOut channel name w = (true, _) := if_pos hthere
    change Program.slice Program.everywhere (if (takeOut channel name w).1 = true then _ else _)
      (takeOut channel name w).2 = _
    rw [htake]
    rfl

theorem slice_waiting_of_busy (change : Change) {w : World τ} (h : w.shelf.writing = true) :
    (Phase.waiting.program change).slice Program.everywhere w = ⟨[], w, Phase.waiting.program change⟩ := by
  change (if (!w.shelf.writing) = true then _ else _) = _
  rw [h]
  rfl

theorem slice_waiting_of_free (change : Change) {w : World τ} (h : w.shelf.writing = false) :
    (Phase.waiting.program change).slice Program.everywhere w =
      ⟨[], w.withWriting true, (Phase.writing w.shelf.entries).program change⟩ := by
  change (if (!w.shelf.writing) = true then _ else _) = _
  rw [h]
  rfl

theorem slice_writing (change : Change) {entries : Entries} {w w' : World τ} {result : Except Fault Unit}
    (h : finishWrite entries w = (result, w')) :
    ((Phase.writing entries).program change).slice Program.everywhere w =
      ⟨[], w', (Phase.ended (result.map fun _ => true)).program change⟩ := by
  change Program.slice Program.everywhere (Program.bind (Program.ofExcept (finishWrite entries w).1) _)
    (finishWrite entries w).2 = _
  rw [h]
  cases result <;> rfl

theorem slice_ended (change : Change) (result : Except Fault Bool) (w : World τ) :
    ((Phase.ended result).program change).slice Program.everywhere w = ⟨[], w, (Phase.ended result).program change⟩ := by
  cases result <;> rfl

end ChatBot.Storage.Shelf
