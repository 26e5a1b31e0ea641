import ChatBot.Feature.Crates
import ChatBot.Proofs.Text.Lines

/-!
How a crate is summed up. Where its description has lines that are not blank, the summary is the crate's heading and one line made of
them. A crate without a description is summed up by the heading alone, but a separator dangles behind the heading of one whose
description is there and blank.
-/
set_option autoImplicit false

namespace ChatBot.Feature.Crate

/-! ## Descriptions -/

/-- The lines of a crate's description that are not blank. -/
def visibleLines (c : Crate) : List Text :=
  match c.description with
  | none => []
  | some d => (Text.lines d).filter fun line => !Text.isBlankText line

/-- These lines, each trimmed, on one line. -/
def visibleText (c : Crate) : Text := Text.join [' '] (c.visibleLines.map Text.trim)

/-- The name and the version. -/
def heading (c : Crate) : Text := c.name ++ " = " ++ c.maxVersion

/-- What may be told of a text in a summary: a beginning of it that is one line, begins visibly and is not too long, and all of the text if
that is short enough. -/
structure Tells (whole told : Text) : Prop where
  begins_visibly : ∃ a, told.head? = some a ∧ Text.isBlank a = false
  unbroken : ∀ a ∈ told, Text.isBreak a = false
  short : told.length ≤ 400
  beginning : told <+: whole
  complete : whole.length ≤ 400 → told = whole

variable {c : Crate}

theorem exists_of_mem_visibleLines {line : Text} (h : line ∈ c.visibleLines) :
    ∃ d, line ∈ Text.lines d ∧ Text.isBlankText line = false := by
  rw [visibleLines] at h
  split at h
  · cases h
  · rename_i d _
    obtain ⟨hline, hvisible⟩ := List.mem_filter.mp h
    exact ⟨d, hline, by simpa using hvisible⟩

theorem flatten_eq_visibleText {d : Text} (h : c.description = some d) : flatten d = c.visibleText := by
  rw [visibleText, visibleLines, h, flatten]
  simp only [Text.isEmpty_trim]

theorem isBreak_of_mem_visibleText {a : Char} (h : a ∈ c.visibleText) : Text.isBreak a = false := by
  rcases Text.mem_of_mem_join h with hblank | ⟨piece, hpiece, ha⟩
  · rw [List.mem_singleton.mp hblank]
    rfl
  · obtain ⟨line, hline, rfl⟩ := List.mem_map.mp hpiece
    obtain ⟨d, hline, -⟩ := exists_of_mem_visibleLines hline
    exact Text.isBreak_of_mem_lines hline a (Text.mem_of_mem_trim ha)

theorem visibleText_begins_visibly (h : c.visibleLines ≠ []) :
    ∃ a, c.visibleText.head? = some a ∧ Text.isBlank a = false := by
  obtain ⟨line, rest, hlines⟩ := List.exists_cons_of_ne_nil h
  have hline : line ∈ c.visibleLines := hlines ▸ List.mem_cons_self
  obtain ⟨_, -, hvisible⟩ := exists_of_mem_visibleLines hline
  obtain ⟨a, hhead, ha⟩ := Text.exists_head?_trim hvisible
  have hgiven : Text.trim line ≠ [] := fun hnone => by
    rw [hnone] at hhead
    cases hhead
  refine ⟨a, ?_, ha⟩
  rw [visibleText, hlines, List.map_cons, Text.head?_join hgiven, hhead]

/-! ## Summaries -/

theorem summary_of_description (h : c.description.getD [] ≠ []) :
    c.summary = c.heading ++ " | " ++ Text.shrink longestDescription c.visibleText := by
  cases hd : c.description with
  | none => simp [hd] at h
  | some d =>
    have hgiven : d.isEmpty = false := List.isEmpty_eq_false_iff.mpr (by simpa [hd] using h)
    simp only [summary, hd, hgiven, Bool.false_eq_true, if_false, flatten_eq_visibleText hd, heading, List.append_assoc]

theorem summary_of_no_description (h : c.description.getD [] = []) : c.summary = c.heading := by
  rw [summary]
  cases hd : c.description with
  | none => exact List.append_nil _
  | some d =>
    obtain rfl : d = [] := by simpa [hd] using h
    exact List.append_nil _

theorem visibleLines_of_no_description (h : c.description.getD [] = []) : c.visibleLines = [] := by
  rw [visibleLines]
  cases hd : c.description with
  | none => rfl
  | some d =>
    obtain rfl : d = [] := by simpa [hd] using h
    rfl

theorem tells_shrink (h : c.visibleLines ≠ []) : Tells c.visibleText (Text.shrink longestDescription c.visibleText) := by
  obtain ⟨a, hhead, ha⟩ := visibleText_begins_visibly h
  have hbeginning := Text.shrink_isBeginning longestDescription c.visibleText
  have hgiven : Text.shrink longestDescription c.visibleText ≠ [] :=
    Text.shrink_ne_nil (by decide) fun hnone => by
      rw [hnone] at hhead
      cases hhead
  constructor
  · obtain ⟨first, rest, hfirst⟩ := List.exists_cons_of_ne_nil hgiven
    obtain ⟨more, hmore⟩ := hbeginning
    rw [← hmore, hfirst, List.cons_append, List.head?_cons] at hhead
    exact ⟨a, by rw [hfirst, List.head?_cons, hhead], ha⟩
  · exact fun b hb => isBreak_of_mem_visibleText (hbeginning.subset hb)
  · exact Int.ofNat_le.mp (Text.length_shrink_le (by decide : 0 ≤ longestDescription) c.visibleText)
  · exact hbeginning
  · exact fun hshort => Text.shrink_of_le (Int.ofNat_le.mpr hshort)

/-- A crate that has something visible to tell is summed up by its heading and one line of that. One without a description is summed up by
its heading. What is between dangles: a description of blanks leaves a separator that nothing follows. -/
theorem summary_is_one_line_or_dangles (c : Crate) :
    (c.visibleLines ≠ [] → ∃ told, c.summary = c.heading ++ " | " ++ told ∧ Tells c.visibleText told) ∧
      (c.description.getD [] = [] → c.summary = c.heading) ∧
      (c.description.getD [] ≠ [] → c.visibleLines = [] → c.summary = c.heading ++ " | ") := by
  refine ⟨fun hlines => ?_, summary_of_no_description, fun hd hlines => ?_⟩
  · exact ⟨_, summary_of_description fun hnone => hlines (visibleLines_of_no_description hnone), tells_shrink hlines⟩
  · rw [summary_of_description hd, visibleText, hlines]
    exact List.append_nil _

theorem blank_description_dangles :
    let c : Crate := ⟨"serde", "1.0.0", some " ", none⟩
    c.visibleLines = [] ∧ c.summary = ("serde = 1.0.0 | " : Text) ∧ c.summary ≠ c.heading := by
  decide

end ChatBot.Feature.Crate
