import ChatBot.Program.Gather
import ChatBot.Proofs.Storage.Shelf

/-!
Changes that fail. A body that is not well formed is refused before anything happens. A file that cannot be written is noticed
after the change was made in memory, and nothing takes it back: the file stays behind, or it has been cut short.
-/
set_option autoImplicit false

namespace ChatBot

namespace Program
variable {σ α : Type}

/-- What is left of a program after a turn goes on where the turn stopped. -/
theorem slice_nowhere_of_slice (stops : Pause → Bool) (p : Program σ α) (s : σ) :
    p.slice nowhere s = ⟨(p.slice stops s).outputs ++ ((p.slice stops s).rest.slice nowhere (p.slice stops s).state).outputs,
      ((p.slice stops s).rest.slice nowhere (p.slice stops s).state).state,
      ((p.slice stops s).rest.slice nowhere (p.slice stops s).state).rest⟩ := by
  induction p generalizing s with
  | done a => rfl
  | raise fault => rfl
  | read next ih => exact ih s s
  | write s' next ih => exact ih s'
  | respond kind text next ih =>
    simp only [slice, Slice.after]
    rw [ih s]
    rfl
  | note n next ih =>
    simp only [slice, Slice.after]
    rw [ih s]
    rfl
  | pause p next ih =>
    simp only [slice]
    split
    · rename_i hnowhere
      cases hnowhere
    · split
      · rfl
      · exact ih s
  | await ready next ih =>
    simp only [slice]
    split
    · exact ih s
    · rename_i hready
      simp only [slice, if_neg hready]
      rfl

theorem run_of_slice {stops : Pause → Bool} {p rest : Program σ α} {s s' : σ} (h : p.slice stops s = ⟨[], s', rest⟩) :
    p.run s = rest.run s' := by
  rw [run, run, slice_nowhere_of_slice stops, h]
  rfl

end Program

namespace Storage.Shelf
variable {τ : Type} {change : Change} {w : World τ} {entries changed : Entries}

def Change.place : Change → Text × Text
  | set channel name _ => (channel, name)
  | remove channel name => (channel, name)

theorem Change.get?_of_applied? (h : change.applied? entries = some changed) {c name : Text}
    (hplace : (c, name) ≠ change.place) : changed.get? c name = entries.get? c name := by
  have helsewhere : ∀ {channel there : Text}, (c, name) ≠ (channel, there) → channel ≠ c ∨ channel = c ∧ there ≠ name := by
    intro channel there hne
    by_cases hc : channel = c
    · subst hc
      exact .inr ⟨rfl, fun hname => hne (hname ▸ rfl)⟩
    · exact .inl hc
  cases change with
  | set channel there body =>
    rw [Change.applied?] at h
    split at h
    · obtain rfl := Option.some.inj h
      rcases helsewhere hplace with hc | ⟨rfl, hname⟩
      · simp [Entries.get?, hc]
      · simp [Entries.get?, hname]
    · cases h
  | remove channel there =>
    rw [Change.applied?] at h
    split at h
    · obtain rfl := Option.some.inj h
      rcases helsewhere hplace with hc | ⟨rfl, hname⟩
      · simp [Entries.get?, hc]
      · simp [Entries.get?, hname]
    · cases h

theorem run_ended (change : Change) (result : Except Fault Bool) (w : World τ) :
    ((Phase.ended result).program change).run w = (result, w, []) := by
  cases result with
  | ok _ => rfl
  | error fault => rfl

theorem run_call_of_none (h : change.applied? w.shelf.entries = none) :
    change.call.run w = (change.refusal, w, []) := by
  rw [Program.run_of_slice (slice_call_of_none h), run_ended]

/-- A call that changes something and finds nothing else being written ends as its write ends. -/
theorem run_call_of_some {result : Except Fault Unit} {after : World τ} (hfree : w.shelf.writing = false)
    (h : change.applied? w.shelf.entries = some changed)
    (hfinish : finishWrite changed ((w.withEntries changed).withWriting true) = (result, after)) :
    change.call.run w = (result.map fun _ => true, after, []) := by
  have hfresh := Program.run_of_slice (slice_call_of_some h)
  have hwaiting := Program.run_of_slice (slice_waiting_of_free change (w := w.withEntries changed) hfree)
  have hwriting := Program.run_of_slice (slice_writing change hfinish)
  rw [hfresh, hwaiting]
  exact hwriting.trans (run_ended change _ after)

/-- A change fails in one of two ways. If the body is not well formed, nothing has changed. Otherwise it was the file that could
not be written: the responses in memory are those after the change, all others are as they were, and the file is what a failed
write of these responses leaves. -/
theorem failed_change (change : Change) {w : World τ} {fault : Fault} (hfree : w.shelf.writing = false)
    (h : (change.call.run w).1 = .error fault) :
    let after := (change.call.run w).2.1
    (∃ error, fault = .template error) ∧ change.applied? w.shelf.entries = none ∧ after = w ∨
      change.applied? w.shelf.entries = some after.shelf.entries ∧
        (∀ c name, (c, name) ≠ change.place → after.shelf.entries.get? c name = w.shelf.entries.get? c name) ∧
        FileSystem.Leaves w.runtime (Json.print after.shelf.entries.document) w.nextRefusal.1 (onDisk w) (onDisk after) fault := by
  intro after
  cases hchange : change.applied? w.shelf.entries with
  | none =>
    have hrun := run_call_of_none hchange
    have hafter : after = w := congrArg (fun r => r.2.1) hrun
    rw [hrun] at h
    refine .inl ⟨?_, rfl, hafter⟩
    cases change with
    | set channel name body =>
      cases hbody : Template.compile name body with
      | ok template => simp [Change.refusal, hbody] at h
      | error error =>
        simp only [Change.refusal, hbody] at h
        exact ⟨error, (Except.error.inj h).symm⟩
    | remove channel name => cases h
  | some changed =>
    let v := (w.withEntries changed).withWriting true
    obtain ⟨w', hshelf, -, ⟨hwrite, -⟩ | ⟨fault', hwrite, hleaves⟩⟩ := finishWrite_cases changed v
    · rw [run_call_of_some hfree hchange hwrite] at h
      cases h
    · have hrun := run_call_of_some hfree hchange hwrite
      have hafter : after = w' := congrArg (fun r => r.2.1) hrun
      have hentries : after.shelf.entries = changed := by
        rw [hafter, hshelf]
        rfl
      have hrefusal : v.nextRefusal.1 = w.nextRefusal.1 := by
        rw [nextRefusal_fst, nextRefusal_fst]
        rfl
      rw [hrun] at h
      obtain rfl : fault' = fault := Except.error.inj h
      refine .inr ⟨by rw [hentries], fun c name hplace => ?_, ?_⟩
      · rw [hentries]
        exact Change.get?_of_applied? hchange hplace
      · rw [hentries, hafter, ← hrefusal]
        exact hleaves

/-- A directory stands where the file should be: memory has the new body, the other body is as it was, and so is the directory. -/
theorem failed_change_of_directory :
    let path := FilePath.ofText "commands.json"
    let w : World Unit :=
      { files := ⟨[(path, .directory)]⟩, clock := (), replies := [], draws := [], lastChatter := none,
        shelf := ⟨path, [("#a", [("hi", ⟨"hi", "hello"⟩), ("bye", ⟨"bye", "so long"⟩)])], false⟩ }
    let change := Change.set "#a" "hi" "good day"
    let after := (change.call.run w).2.1
    w.shelf.writing = false ∧ (change.call.run w).1 = .error (.file .isDirectory) ∧ onDisk after = onDisk w ∧
      after.shelf.entries.get? "#a" "hi" = some ⟨"hi", "good day"⟩ ∧
      after.shelf.entries.get? "#a" "bye" = w.shelf.entries.get? "#a" "bye" := by
  intro path w change
  have herror : (change.call.run w).1 = .error (.file .isDirectory) := by decide +kernel
  have happlied : change.applied? w.shelf.entries = some (w.shelf.entries.set "#a" "hi" ⟨"hi", "good day"⟩) := rfl
  have hkeeps : KeepsFile w := ⟨fun _ => rfl, fun _ _ => List.not_mem_nil⟩
  have houtcome := failed_change change (w := w) rfl herror
  -- the world that is left is known by the theorem alone
  generalize (change.call.run w).2.1 = left at houtcome ⊢
  rcases houtcome with ⟨⟨error, hfault⟩, -⟩ | ⟨hchanged, hothers, hleaves⟩
  · cases hfault
  · have hentries := Option.some.inj (happlied.symm.trans hchanged)
    refine ⟨rfl, herror, hkeeps.eq_of_leaves hleaves, ?_, hothers "#a" "bye" (by decide)⟩
    rw [← hentries]
    rfl

/-- The disk is full after two bytes: the brace and the line end are all that is left in the file. -/
example :
    let path := FilePath.ofText "commands.json"
    let w : World Unit :=
      { files := ⟨[(path, .file (FileSystem.encode "\x7b\x7d"))]⟩, clock := (), replies := [], draws := [], lastChatter := none,
        shelf := ⟨path, [], false⟩, refusals := [some (.writing .noSpace 2)] }
    ((Shelf.set "#a" "hi" "hello" : Program (World Unit) Unit).run w).1 = .error (.file .noSpace) ∧
      ((Shelf.set "#a" "hi" "hello" : Program (World Unit) Unit).run w).2.1.files.textAt? path = some "\x7b\n".toList := by
  decide +kernel

/-- A change that the file refuses is there all the same: the new name is found and listed. -/
theorem failed_change_is_kept_in_memory :
    let path := FilePath.ofText "commands.json"
    let w : World Unit :=
      { files := ⟨[(path, .directory)]⟩, clock := (), replies := [], draws := [], lastChatter := none,
        shelf := ⟨path, [], false⟩ }
    let set := ((Shelf.set "#a" "hi" "hello" : Program (World Unit) Unit).run w)
    set.1 = .error (.file .isDirectory) ∧
      w.shelf.entries.get? "#a" "hi" = none ∧ set.2.1.shelf.entries.get? "#a" "hi" = some ⟨"hi", "hello"⟩ ∧
      w.shelf.entries.commands "#a" = [] ∧ set.2.1.shelf.entries.commands "#a" = [("hi".toList, "hello".toList)] := by
  decide +kernel

end Storage.Shelf
end ChatBot
