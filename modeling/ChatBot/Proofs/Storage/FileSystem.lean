import ChatBot.Proofs.Assoc
import ChatBot.Storage.Document

/-!
What stands at a path after a file was written to it. Only directories are walked through, and a file is never put in the place
of one, so writing does not change where a path leads, and what could be written once can be written again. A text that was
written reads back, if no carriage return is in it.
-/
set_option autoImplicit false

namespace ChatBot.Storage
namespace FileSystem

/-- Where no directory stands, a walk ends at what is filed under its path. -/
theorem find?_of_walk {fs : FileSystem} {here : FilePath} {names : List Text} {place : Place}
    (h : fs.walk here names = .ok place) (hplace : place.node ≠ some .directory) :
    fs.nodes.find? place.path = place.node := by
  fun_induction walk fs here names with
  | case1 here =>
    obtain rfl := Except.ok.inj h
    exact absurd rfl hplace
  | case2 here names ih => exact ih h
  | case3 => cases h
  | case4 here name names _ _ _ ih => exact ih h
  | case5 here name names _ _ node _ hnode _ =>
    obtain rfl := Except.ok.inj h
    exact hnode
  | case6 => cases h
  | case7 here name names _ _ hnone _ =>
    obtain rfl := Except.ok.inj h
    exact hnone
  | case8 => cases h

/-- A walk that ends where no directory stands is the same once something is put there, which it then finds. -/
theorem walk_insert {fs : FileSystem} {here : FilePath} {names : List Text} {place : Place} (node : FileNode)
    (h : fs.walk here names = .ok place) (hplace : place.node ≠ some .directory) :
    walk ⟨fs.nodes.insert place.path node⟩ here names = .ok ⟨place.path, some node⟩ := by
  have hfind := find?_of_walk h hplace
  fun_induction walk fs here names with
  | case1 here =>
    obtain rfl := Except.ok.inj h
    exact absurd rfl hplace
  | case2 here names ih =>
    rw [walk, if_pos rfl]
    exact ih h
  | case3 => cases h
  | case4 here name names hback hshort hdirectory ih =>
    have hne : place.path ≠ here.child name := by
      intro heq
      rw [heq, hdirectory] at hfind
      exact hplace hfind.symm
    rw [walk, if_neg hback, if_neg hshort]
    simp only [Assoc.find?_insert_of_ne _ _ hne, hdirectory]
    exact ih h
  | case5 here name names hback hshort found _ hfound hlast =>
    obtain rfl := Except.ok.inj h
    rw [walk, if_neg hback, if_neg hshort]
    obtain rfl := List.isEmpty_iff.mp hlast
    cases node <;> simp [walk]
  | case6 => cases h
  | case7 here name names hback hshort hnone hlast =>
    obtain rfl := Except.ok.inj h
    rw [walk, if_neg hback, if_neg hshort]
    obtain rfl := List.isEmpty_iff.mp hlast
    cases node <;> simp [walk]
  | case8 => cases h

/-- A walk to a directory is the same once something is put where no directory stands. -/
theorem walk_insert_of_directory {fs : FileSystem} {here p target : FilePath} {names : List Text} (node : FileNode)
    (h : fs.walk here names = .ok ⟨target, some .directory⟩) (hp : fs.nodes.find? p ≠ some .directory) :
    walk ⟨fs.nodes.insert p node⟩ here names = .ok ⟨target, some .directory⟩ := by
  fun_induction walk fs here names with
  | case1 here => exact h
  | case2 here names ih =>
    rw [walk, if_pos rfl]
    exact ih h
  | case3 => cases h
  | case4 here name names hback hshort hdirectory ih =>
    have hne : p ≠ here.child name := fun heq => hp (heq ▸ hdirectory)
    rw [walk, if_neg hback, if_neg hshort]
    simp only [Assoc.find?_insert_of_ne _ _ hne, hdirectory]
    exact ih h
  | case5 here name names _ _ found hnot _ _ =>
    have hfound : some found = some FileNode.directory := congrArg Place.node (Except.ok.inj h)
    exact absurd (Option.some.inj hfound) hnot
  | case6 => cases h
  | case7 => cases h
  | case8 => cases h

theorem writeBytes_eq_ok {fs fs' : FileSystem} {p : FilePath} {bytes : ByteArray}
    (h : fs.writeBytes p bytes = .ok fs') : ∃ place, fs.locate p = .ok place ∧ place.node ≠ some .directory ∧
      fs' = ⟨fs.nodes.insert place.path (.file bytes)⟩ := by
  rw [writeBytes] at h
  cases hplace : fs.locate p with
  | error fault =>
    rw [hplace] at h
    cases h
  | ok place =>
    simp only [hplace, bind, Except.bind] at h
    split at h
    · cases h
    · rename_i hnode
      exact ⟨place, rfl, hnode, (Except.ok.inj h).symm⟩

/-- Where a path leads hangs on the walk alone, unless the path cannot be looked up at all. -/
theorem locate_eq_ok {fs : FileSystem} {p : FilePath} {place : Place} (h : fs.locate p = .ok place) :
    fs.walk p.start p.parts = .ok place ∧
      ∀ fs' : FileSystem, fs'.locate p = (fs'.walk p.start p.parts).mapError .file := by
  rw [locate] at h
  split at h
  · cases h
  · rename_i hzero
    split at h
    · cases h
    · rename_i hlong
      refine ⟨?_, fun fs' => by rw [locate, if_neg hzero, if_neg hlong]⟩
      cases hwalk : fs.walk p.start p.parts with
      | ok found =>
        rw [hwalk] at h
        obtain rfl : found = place := Except.ok.inj h
        rfl
      | error fault =>
        rw [hwalk] at h
        cases h

theorem locate_insert {fs : FileSystem} {p : FilePath} {place : Place} (node : FileNode) (h : fs.locate p = .ok place)
    (hplace : place.node ≠ some .directory) :
    locate ⟨fs.nodes.insert place.path node⟩ p = .ok ⟨place.path, some node⟩ := by
  obtain ⟨hwalk, hlocate⟩ := locate_eq_ok h
  rw [hlocate, walk_insert node hwalk hplace]
  rfl

theorem node?_of_writeBytes {fs fs' : FileSystem} {p : FilePath} {bytes : ByteArray}
    (h : fs.writeBytes p bytes = .ok fs') : fs'.node? p = .ok (some (.file bytes)) := by
  obtain ⟨place, hplace, hnode, rfl⟩ := writeBytes_eq_ok h
  rw [node?, locate_insert _ hplace hnode]

/-! ## Writing again -/

def HasDirectory (fs : FileSystem) (p : FilePath) : Prop := ∃ target, fs.locate p = .ok ⟨target, some .directory⟩

theorem HasDirectory.makeDirectory {fs : FileSystem} {p : FilePath} (h : fs.HasDirectory p) :
    fs.makeDirectory p = .ok fs := by
  obtain ⟨target, htarget⟩ := h
  rw [FileSystem.makeDirectory, htarget]
  rfl

theorem HasDirectory.insert {fs : FileSystem} {p q : FilePath} (h : fs.HasDirectory p) (node : FileNode)
    (hq : fs.nodes.find? q ≠ some .directory) : HasDirectory ⟨fs.nodes.insert q node⟩ p := by
  obtain ⟨target, htarget⟩ := h
  obtain ⟨hwalk, hlocate⟩ := locate_eq_ok htarget
  exact ⟨target, by rw [hlocate, walk_insert_of_directory node hwalk hq]; rfl⟩

theorem hasDirectory_of_makeDirectory {fs fs' : FileSystem} {p : FilePath} (h : fs.makeDirectory p = .ok fs') :
    fs'.HasDirectory p := by
  rw [makeDirectory] at h
  cases hplace : fs.locate p with
  | error fault =>
    rw [hplace] at h
    cases h
  | ok place =>
    obtain ⟨target, node⟩ := place
    rw [hplace] at h
    cases node with
    | none =>
      obtain rfl := Except.ok.inj h
      exact ⟨target, locate_insert .directory hplace (by simp)⟩
    | some node =>
      cases node with
      | directory =>
        obtain rfl := Except.ok.inj h
        exact ⟨target, hplace⟩
      | file bytes => cases h

/-- A directory that has been made is there, unless it is where every path begins. -/
theorem hasDirectory_of_makeWithAbove {fs fs' : FileSystem} {root : Text} {names : List Text}
    (h : fs.makeWithAbove root names = .ok fs') : names = [] ∨ fs'.HasDirectory ⟨root, names.reverse⟩ := by
  cases names with
  | nil => exact .inl rfl
  | cons name names =>
    right
    rw [makeWithAbove] at h
    split at h
    · cases hmade : fs.makeWithAbove root names with
      | error fault =>
        rw [hmade] at h
        cases h
      | ok made =>
        rw [hmade] at h
        exact hasDirectory_of_makeDirectory h
    · exact hasDirectory_of_makeDirectory h

theorem makeWithAbove_of_hasDirectory {fs : FileSystem} {root : Text} {names : List Text}
    (h : names = [] ∨ fs.HasDirectory ⟨root, names.reverse⟩) : fs.makeWithAbove root names = .ok fs := by
  cases names with
  | nil => rfl
  | cons name names =>
    have hmade := (h.resolve_left (List.cons_ne_nil name names)).makeDirectory
    rw [makeWithAbove]
    simp only [hmade]

section
variable {fs fs' : FileSystem} {p : FilePath} {bytes : ByteArray}

theorem put_eq_ok (h : fs.put p (.file bytes) = .ok fs') :
    ∃ made, fs.makeDirectories p.parent = .ok made ∧ made.writeBytes p bytes = .ok fs' := by
  rw [put] at h
  cases hmade : fs.makeDirectories p.parent with
  | error fault =>
    rw [hmade] at h
    cases h
  | ok made =>
    rw [hmade] at h
    exact ⟨made, rfl, h⟩

theorem node?_of_put (h : fs.put p (.file bytes) = .ok fs') : fs'.node? p = .ok (some (.file bytes)) := by
  obtain ⟨made, -, hwrite⟩ := put_eq_ok h
  exact node?_of_writeBytes hwrite

/-- Where some bytes can be put, any others can be put instead. -/
theorem exists_put_of_put (h : fs.put p (.file bytes) = .ok fs') (other : ByteArray) :
    ∃ fs'', fs.put p (.file other) = .ok fs'' := by
  obtain ⟨made, hmade, hwrite⟩ := put_eq_ok h
  obtain ⟨place, hplace, hnode, -⟩ := writeBytes_eq_ok hwrite
  rw [put, hmade]
  simp only [bind, Except.bind, writeBytes, hplace]
  exact ⟨_, rfl⟩

/-- Where bytes were put, any others take their place. -/
theorem put_after_put (h : fs.put p (.file bytes) = .ok fs') (other : ByteArray) :
    ∃ target, fs'.nodes.find? target = some (.file bytes) ∧
      fs'.put p (.file other) = .ok ⟨fs'.nodes.insert target (.file other)⟩ := by
  obtain ⟨made, hmade, hwrite⟩ := put_eq_ok h
  obtain ⟨place, hplace, hnode, rfl⟩ := writeBytes_eq_ok hwrite
  have hnot : made.nodes.find? place.path ≠ some .directory := by
    rw [find?_of_walk (locate_eq_ok hplace).1 hnode]
    exact hnode
  have hparent : (FileSystem.mk (made.nodes.insert place.path (.file bytes))).makeDirectories p.parent =
      .ok ⟨made.nodes.insert place.path (.file bytes)⟩ :=
    makeWithAbove_of_hasDirectory
      ((hasDirectory_of_makeWithAbove hmade).imp_right fun hthere => hthere.insert _ hnot)
  refine ⟨place.path, Assoc.find?_insert_self _ _ _, ?_⟩
  have hlocate := locate_insert (.file bytes) hplace hnode
  rw [put, hparent]
  simp only [bind, Except.bind, writeBytes, hlocate]

theorem put_again (h : fs.put p (.file bytes) = .ok fs') : fs'.put p (.file bytes) = .ok fs' := by
  obtain ⟨target, hfind, hput⟩ := put_after_put h bytes
  rw [hput, Assoc.insert_of_find?_eq_some hfind]

end

/-! ## What cannot be put anywhere -/

/-- The faults of a file that is not even opened: the files refuse it, or the path is none. -/
inductive OpeningFault : Fault → Prop
  | refused (fault : FileFault) : OpeningFault (.file fault)
  | noPath : OpeningFault zeroCharacter

section
variable {fs : FileSystem} {p : FilePath} {fault : Fault}

theorem openingFault_of_locate (h : fs.locate p = .error fault) : OpeningFault fault := by
  rw [locate] at h
  split at h
  · obtain rfl := Except.error.inj h
    exact .noPath
  · split at h
    · obtain rfl := Except.error.inj h
      exact .refused _
    · cases hwalk : fs.walk p.start p.parts with
      | ok place =>
        rw [hwalk] at h
        cases h
      | error refusal =>
        rw [hwalk] at h
        obtain rfl := Except.error.inj h
        exact .refused refusal

theorem openingFault_of_makeDirectory (h : fs.makeDirectory p = .error fault) : OpeningFault fault := by
  rw [makeDirectory] at h
  cases hplace : fs.locate p with
  | error refusal =>
    rw [hplace] at h
    obtain rfl := Except.error.inj h
    exact openingFault_of_locate hplace
  | ok place =>
    simp only [hplace, bind, Except.bind] at h
    split at h
    · cases h
    · obtain rfl := Except.error.inj h
      exact .refused _
    · cases h

theorem openingFault_of_makeWithAbove {root : Text} {names : List Text} (h : fs.makeWithAbove root names = .error fault) :
    OpeningFault fault := by
  induction names with
  | nil => cases h
  | cons name names ih =>
    rw [makeWithAbove] at h
    split at h
    · -- the directory is made after those above it
      cases hmade : fs.makeWithAbove root names with
      | error refusal =>
        rw [hmade] at h
        obtain rfl := Except.error.inj h
        exact ih hmade
      | ok made =>
        rw [hmade] at h
        exact openingFault_of_makeDirectory h
    · exact openingFault_of_makeDirectory h

theorem openingFault_of_put {bytes : ByteArray} (h : fs.put p (.file bytes) = .error fault) : OpeningFault fault := by
  rw [put] at h
  cases hmade : fs.makeDirectories p.parent with
  | error refusal =>
    rw [hmade] at h
    obtain rfl := Except.error.inj h
    exact openingFault_of_makeWithAbove hmade
  | ok made =>
    simp only [hmade, bind, Except.bind, writeBytes] at h
    cases hplace : made.locate p with
    | error refusal =>
      rw [hplace] at h
      obtain rfl := Except.error.inj h
      exact openingFault_of_locate hplace
    | ok place =>
      simp only [hplace] at h
      split at h
      · obtain rfl := Except.error.inj h
        exact .refused _
      · cases h

end

/-! ## Text -/

theorem decode?_encode (t : Text) : decode? (encode t) = some t := by
  have hvalid : (String.ofList t).toUTF8.IsValidUTF8 := (String.ofList t).isValidUTF8
  rw [decode?, encode, String.fromUTF8?, dif_pos hvalid]
  exact congrArg some String.toList_ofList

theorem unifyLineEnds_of_not_mem {t : Text} (h : '\r' ∉ t) : unifyLineEnds t = t := by
  induction t with
  | nil => rfl
  | cons c t ih =>
    obtain ⟨hc, ht⟩ : c ≠ '\r' ∧ '\r' ∉ t := by simpa [eq_comm] using h
    rw [unifyLineEnds]
    · rw [if_neg hc, ih ht]
    · exact fun _ h _ => hc h

theorem readText?_encode {t : Text} (h : '\r' ∉ t) : readText? (encode t) = some t := by
  rw [readText?, decode?_encode, Option.map_some, unifyLineEnds_of_not_mem h]

/-! ## Writing text -/

/-- What stands at a path after a text was to be written there in vain. Nothing has changed if the file was not opened. Opening
empties it, so half a character in the text leaves it empty, and a write that breaks off leaves the text's first bytes. -/
inductive Leaves (runtime : Runtime) (t : Text) (refusal : Option Refusal) (before : Except FileFault (Option FileNode)) :
    Except FileFault (Option FileNode) → Fault → Prop
  | unopened {fault : Fault} : OpeningFault fault → Leaves runtime t refusal before before fault
  | emptied {c : Char} : c ∈ t → runtime.isHalf c = true →
      Leaves runtime t refusal before (.ok (some (.file .empty))) .unencodable
  | cut {fault : FileFault} {count : Nat} : refusal = some (.writing fault count) →
      Leaves runtime t refusal before (.ok (some (.file ((encode t).extract 0 count)))) (.file fault)

section
variable {fs fs' : FileSystem} {runtime : Runtime} {p : FilePath} {t : Text} {refusal : Option Refusal}

theorem written_of_half (h : t.any runtime.isHalf = true) :
    written runtime refusal t = (.error .unencodable, .empty) := by
  unfold written
  rw [if_pos h]

theorem written_of_whole (refusal : Option Refusal) (h : t.any runtime.isHalf = false) :
    written runtime refusal t = (.ok (), encode t) ∨ ∃ fault count, refusal = some (.writing fault count) ∧
      written runtime refusal t = (.error (.file fault), (encode t).extract 0 count) := by
  unfold written
  rw [h]
  rcases refusal with _ | fault | ⟨fault, count⟩
  · exact .inl rfl
  · exact .inl rfl
  · exact .inr ⟨fault, count, rfl, rfl⟩

/-- A text without halves is written whole where nothing refuses it. -/
theorem writeText_of_put (hwhole : t.any runtime.isHalf = false) (hput : fs.put p (.file (encode t)) = .ok fs') :
    fs.writeText runtime p t none = (.ok (), fs') := by
  simp only [writeText, written, hwhole, Bool.false_eq_true, if_false, hput]

/-- A file that was opened has all of the text in it in the end, or what a failed write leaves. -/
theorem written_cases (runtime : Runtime) (refusal : Option Refusal) (t : Text)
    (before : Except FileFault (Option FileNode)) :
    (t.any runtime.isHalf = false ∧ written runtime refusal t = (.ok (), encode t)) ∨
      ∃ fault bytes, written runtime refusal t = (.error fault, bytes) ∧
        Leaves runtime t refusal before (.ok (some (.file bytes))) fault := by
  cases hhalf : t.any runtime.isHalf with
  | true =>
    obtain ⟨c, hc, hisHalf⟩ := List.any_eq_true.mp hhalf
    exact .inr ⟨_, _, written_of_half hhalf, .emptied hc hisHalf⟩
  | false =>
    rcases written_of_whole refusal hhalf with hwritten | ⟨fault, count, hrefusal, hwritten⟩
    · exact .inl ⟨rfl, hwritten⟩
    · exact .inr ⟨_, _, hwritten, .cut hrefusal⟩

/-- A write ends well with all of the text in the file, or it fails and leaves what a failed write can leave. -/
theorem writeText_cases (fs : FileSystem) (runtime : Runtime) (p : FilePath) (t : Text) (refusal : Option Refusal) :
    (∃ fs', fs.writeText runtime p t refusal = (.ok (), fs') ∧ t.any runtime.isHalf = false ∧
        fs.put p (.file (encode t)) = .ok fs') ∨
      ∃ fault fs', fs.writeText runtime p t refusal = (.error fault, fs') ∧
        Leaves runtime t refusal (fs.node? p) (fs'.node? p) fault := by
  unfold writeText
  split
  · exact .inr ⟨_, fs, rfl, .unopened (.refused _)⟩
  · rcases written_cases runtime refusal t (fs.node? p) with ⟨hwhole, hwritten⟩ | ⟨fault, bytes, hwritten, hleaves⟩
    · rw [hwritten]
      cases hput : fs.put p (.file (encode t)) with
      | ok fs' => exact .inl ⟨fs', by simp only [hput], hwhole, rfl⟩
      | error fault => exact .inr ⟨fault, fs, by simp only [hput], .unopened (openingFault_of_put hput)⟩
    · rw [hwritten]
      cases hput : fs.put p (.file bytes) with
      | ok fs' => exact .inr ⟨fault, fs', by simp only [hput], by rwa [node?_of_put hput]⟩
      | error fault => exact .inr ⟨fault, fs, by simp only [hput], .unopened (openingFault_of_put hput)⟩

end

end FileSystem

namespace Entries

def file (entries : Entries) : FileNode := .file (FileSystem.encode (Json.print entries.document))

end Entries
end ChatBot.Storage
