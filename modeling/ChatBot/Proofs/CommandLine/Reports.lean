import ChatBot.CommandLine.Execution
import ChatBot.Proofs.Command.FirstViolation
import ChatBot.Proofs.Command.Rendering
import ChatBot.Proofs.Terminal.Markup

/-!
What the commands that look at a usage line report. A line that declares no command is refused by both, in the words of the first
rule that it breaks. Of a command, `extract` shows what a line binds, as it is; `check` shows the name as markup, so the name comes out
as it is just where it holds none.
-/
set_option autoImplicit false

namespace ChatBot.CommandLine
open Command Terminal

/-! ## Refusals -/

/-- Text that is shown as it is, be it printed with markup or without. -/
structure IsPlain (t : Text) : Prop where
  no_bracket : '[' ∉ t
  no_backslash : '\\' ∉ t
  colons : t.count ':' ≤ 1
  steady : IsSteady t

theorem isAlphanumeric_of_low : ∀ n < 32, Text.isAlphanumeric (Char.ofNat n) = false := by decide

theorem visible_of_isKey {key : Text} (h : IsKey key) {c : Char} (hc : c ∈ key) : 32 ≤ c.toNat := by
  by_contra hlow
  have halpha := h.2 c hc
  rw [← Char.ofNat_toNat c, isAlphanumeric_of_low c.toNat (by omega)] at halpha
  cases halpha

theorem not_mem_of_isKey {key : Text} (h : IsKey key) {c : Char} (hc : Text.isAlphanumeric c = false) : c ∉ key := by
  intro hmem
  rw [h.2 c hmem] at hc
  cases hc

/-- A key may stand in any plain text that has no colon of its own behind it. -/
theorem isPlain_append_key {lead key : Text} (hlead : IsPlain lead) (hkey : IsKey key) : IsPlain (lead ++ key) where
  no_bracket := by
    rw [List.mem_append, not_or]
    exact ⟨hlead.no_bracket, not_mem_of_isKey hkey (by decide)⟩
  no_backslash := by
    rw [List.mem_append, not_or]
    exact ⟨hlead.no_backslash, not_mem_of_isKey hkey (by decide)⟩
  colons := by
    rw [List.count_append, List.count_eq_zero.mpr (not_mem_of_isKey hkey (by decide)), Nat.add_zero]
    exact hlead.colons
  steady := hlead.steady.append (isSteady_of_visible fun _ => visible_of_isKey hkey)

instance (t : Text) : Decidable (IsPlain t) :=
  decidable_of_iff ('[' ∉ t ∧ '\\' ∉ t ∧ t.count ':' ≤ 1 ∧ IsSteady t)
    ⟨fun ⟨h₁, h₂, h₃, h₄⟩ => ⟨h₁, h₂, h₃, h₄⟩, fun ⟨h₁, h₂, h₃, h₄⟩ => ⟨h₁, h₂, h₃, h₄⟩⟩

theorem isPlain_message_of_refuses {slots : List Slot} {slot : Slot} {e : UsageError} (h : Refuses slots slot e) :
    (∀ given, e ≠ .leader given) ∧ IsPlain e.message := by
  cases h with
  | badKey => exact ⟨nofun, by decide⟩
  | duplicateKey hkey => exact ⟨nofun, isPlain_append_key (by decide) hkey⟩
  | misplaced _ _ hmisplaced =>
    generalize slot.kind = kind at hmisplaced
    cases hmisplaced <;> exact ⟨nofun, by decide⟩

/-- No refusal of a line says anything that markup could have a part in. -/
theorem isPlain_message {leader : Char} {usage : Text} {elevated : Bool} {e : UsageError}
    (h : Schema.ofUsage [leader] usage elevated = .error e) : (∀ given, e ≠ .leader given) ∧ IsPlain e.message := by
  rw [ofUsage_eq] at h
  split at h
  · obtain rfl := Except.error.inj h
    exact ⟨nofun, by decide⟩
  · obtain rfl := Except.error.inj h
    exact ⟨nofun, by decide⟩
  · split at h
    · rename_i hadd
      obtain rfl := Except.error.inj h
      obtain ⟨-, -, -, declared, slot, -, -, -, hrefuses⟩ := addSlots_eq_error_iff.mp hadd
      exact isPlain_message_of_refuses hrefuses
    · cases h

/-- The style of the word that a refusal begins with. -/
def red : Text := ['r', 'e', 'd']

def invalid : Text := ['i', 'n', 'v', 'a', 'l', 'i', 'd', ':']

theorem isTag_red : IsTag red := ⟨'r', ['e', 'd'], rfl, rfl, by decide, by decide⟩

theorem isTag_unred : IsTag ('/' :: red) := ⟨'/', red, rfl, rfl, by decide, by decide⟩

theorem pieces_refusal {message : Text} (h : IsPlain message) :
    pieces ('[' :: red ++ ']' :: (invalid ++ ('[' :: ('/' :: red) ++ ']' :: (' ' :: message)))) =
      [.tag red, .plain invalid, .tag ('/' :: red), .plain (' ' :: message)] := by
  have hmessage : piecesFrom 0 ((' ' :: message) ++ []) = [[.plain (' ' :: message)]] :=
    piecesFrom_label rfl ⟨by simp [h.no_bracket], by simp [h.no_backslash]⟩
  have hrest : piecesFrom 0 ('[' :: ('/' :: red) ++ ']' :: (' ' :: message)) =
      [] :: [.tag ('/' :: red)] :: [[.plain (' ' :: message)]] := by
    rw [List.append_nil] at hmessage
    exact hmessage ▸ piecesFrom_tag isTag_unred 0 (' ' :: message)
  have hinvalid := piecesFrom_label (t := invalid) hrest (by decide)
  rw [pieces]
  exact congrArg List.flatten (hinvalid ▸ piecesFrom_tag isTag_red 0 (invalid ++ ('[' :: ('/' :: red) ++ ']' :: (' ' :: message))))

theorem applyTag_red : applyTag red [] = .ok [⟨red, none⟩] := by decide +kernel

theorem applyTag_unred : applyTag ('/' :: red) [⟨red, none⟩] = .ok [] := by decide +kernel

theorem checkStyle_red : checkStyle (.tag red) = .ok () := by decide +kernel

theorem shown_invalid : replaceEmoji (Text.replaceAll ['\\', '['] ['['] invalid) = invalid := by decide

theorem IsPlain.shown {t : Text} (h : IsPlain t) : replaceEmoji (Text.replaceAll ['\\', '['] ['['] t) = t := by
  have hescape : ¬ (['\\', '['] : Text) <:+: t := fun hwithin => h.no_backslash (hwithin.subset List.mem_cons_self)
  have hkept : Text.replaceAll ['\\', '['] ['['] t = t := unescaped_of_no_escape hescape
  rw [hkept, replaceEmoji_of_namesNoEmoji (namesNoEmoji_of_count h.colons)]

theorem IsPlain.cons_space {t : Text} (h : IsPlain t) : IsPlain (' ' :: t) where
  no_bracket := by simp [h.no_bracket]
  no_backslash := by simp [h.no_backslash]
  colons := by simpa using h.colons
  steady c hc := by
    rcases List.mem_cons.mp hc with rfl | hc
    · decide
    · exact h.steady c hc

/-- The words of a refusal come out as they are. -/
theorem printMarkup_refusal {message : Text} (h : IsPlain message) :
    printMarkup ("[red]invalid:[/red] " ++ message) = .ok ("invalid: " ++ message ++ ['\n']) := by
  have hopening : "[red]invalid:[/red] ".toList =
      '[' :: red ++ ']' :: (invalid ++ ('[' :: ('/' :: red) ++ ']' :: [' '])) := rfl
  have hwhole : "[red]invalid:[/red] " ++ message =
      '[' :: red ++ ']' :: (invalid ++ ('[' :: ('/' :: red) ++ ']' :: (' ' :: message))) :=
    (congrArg (· ++ message) hopening).trans (by simp only [List.append_assoc, List.cons_append, List.nil_append])
  have hpieces := pieces_refusal h
  rw [← hwhole] at hpieces
  have hshown : shownText [] (pieces ("[red]invalid:[/red] " ++ message)) = .ok (invalid ++ (' ' :: message)) := by
    rw [hpieces, shownText, applyTag_red]
    dsimp only
    rw [shownText, shownText, applyTag_unred]
    dsimp only
    rw [shownText, shownText, shown_invalid, h.cons_space.shown]
    simp only [Except.map, List.append_nil]
  have hstyles : (pieces ("[red]invalid:[/red] " ++ message)).forM checkStyle = .ok () := by
    rw [hpieces]
    change (checkStyle (.tag red) >>= fun _ => Except.ok ()) = _
    rw [checkStyle_red]
    rfl
  have hsteady : IsSteady (invalid ++ (' ' :: message)) :=
    IsSteady.append (by decide) h.cons_space.steady
  have hresult : invalid ++ (' ' :: message) = "invalid: " ++ message := by
    have hlabel : "invalid: ".toList = invalid ++ [' '] := rfl
    exact (List.append_assoc invalid [' '] message).symm.trans (congrArg (· ++ message) hlabel.symm)
  rw [printMarkup_of_shown hshown hstyles, layOut_of_isSteady hsteady, hresult]

/-- The report on a line that declares no command. -/
def refusal (e : UsageError) : Text := "invalid: " ++ e.message ++ ['\n']

theorem verdict_of_printed {printed : Except MarkupError Text} {text : Text} (h : printed = .ok text) :
    ((printed.mapError Crash.markup).map fun text => (text, 1)) = .ok (text, 1) := by
  rw [h]
  rfl

theorem refuse_eq {leader : Char} {usage : Text} {elevated : Bool} {e : UsageError}
    (h : Schema.ofUsage [leader] usage elevated = .error e) : refuse e = .ok (refusal e, 1) := by
  obtain ⟨hleader, hplain⟩ := isPlain_message h
  have hprinted := verdict_of_printed (printMarkup_refusal hplain)
  cases e with
  | leader given => exact absurd rfl (hleader given)
  | _ => exact hprinted

/-! ## Lines -/

/-- The lines of the slots of a command. -/
def slotLines (s : Schema) : Text :=
  s.slots.flatMap fun slot => "  " ++ slot.key ++ ": " ++ slotKindName slot.kind ++ ['\n']

/-- The lines of bound arguments. -/
def bindingLines (bindings : Bindings) : Text :=
  bindings.flatMap fun (key, value) => "  " ++ key ++ " = " ++ Text.quote value ++ ['\n']

theorem printSlot_eq {slot : Slot} (h : IsKey slot.key) :
    printSlot slot = "  " ++ slot.key ++ ": " ++ slotKindName slot.kind ++ ['\n'] := by
  have hcolon : ':' ∉ slot.key := not_mem_of_isKey h (by decide)
  have hkind : (slotKindName slot.kind).count ':' = 0 ∧ IsSteady (slotKindName slot.kind) := by
    cases slot.kind <;> exact ⟨by decide, by decide⟩
  refine print_of_namesNoEmoji ?_ (namesNoEmoji_of_count ?_)
  · refine IsSteady.append (IsSteady.append (IsSteady.append ?_ ?_) ?_) hkind.2
    · decide
    · exact isSteady_of_visible fun _ => visible_of_isKey h
    · decide
  · have hlead : "  ".toList.count ':' = 0 := by decide
    have hgap : ": ".toList.count ':' = 1 := by decide
    rw [List.count_append, List.count_append, List.count_append, hlead, hgap, hkind.1, List.count_eq_zero.mpr hcolon]

theorem printBinding_eq {key value : Text} (h : IsKey key) (hvalue : NamesNoEmoji (Text.quote value)) :
    printBinding key value = "  " ++ key ++ " = " ++ Text.quote value ++ ['\n'] := by
  have hlead : ':' ∉ ("  " ++ key ++ " = " : Text) := by
    rw [List.mem_append, List.mem_append, not_or, not_or]
    exact ⟨⟨by decide, not_mem_of_isKey h (by decide)⟩, by decide⟩
  have hsteady : IsSteady ("  " ++ key ++ " = " ++ Text.quote value) := by
    refine IsSteady.append (IsSteady.append (IsSteady.append ?_ ?_) ?_) ?_
    · decide
    · exact isSteady_of_visible fun _ => visible_of_isKey h
    · decide
    · exact isSteady_of_visible fun _ => visible_quote
  rw [printBinding, print, replaceEmoji_append_of_not_mem hlead, replaceEmoji_of_namesNoEmoji hvalue, layOut_of_isSteady hsteady]

theorem exists_of_forall₂_right {α β : Type} {r : α → β → Prop} {as : List α} {bs : List β} (h : List.Forall₂ r as bs)
    {b : β} (hb : b ∈ bs) : ∃ a ∈ as, r a b := by
  induction h with
  | nil => cases hb
  | cons hfirst _ ih =>
    rcases List.mem_cons.mp hb with rfl | hlater
    · exact ⟨_, List.mem_cons_self, hfirst⟩
    · obtain ⟨a, ha, hrel⟩ := ih hlater
      exact ⟨a, List.mem_cons_of_mem _ ha, hrel⟩

theorem isKey_of_mem_slots {leader : Char} {usage name : Text} {slots : List Slot} (h : DeclaresCommand leader usage name slots)
    {slot : Slot} (hslot : slot ∈ slots) : IsKey slot.key := by
  obtain ⟨words, -, hdeclared⟩ := h.words
  obtain ⟨word, -, hword⟩ := exists_of_forall₂_right hdeclared hslot
  exact hword.1

/-- A line binds keys of slots only. -/
theorem isKey_of_mem_bindings {leader : Char} {usage line : Text} {s : Schema}
    (h : DeclaresCommand leader usage s.name s.slots) {bindings : Bindings} (hread : s.extract line = .matched bindings)
    {b : Text × Text} (hb : b ∈ bindings) : IsKey b.1 := by
  obtain ⟨rest, -, rfl, -⟩ := exists_rest_of_extract hread
  rw [bindSlots_eq_slotTexts h.keys_nodup] at hb
  have hkey : b.1 ∈ s.slots.map Slot.key := (keys_slotTexts_sublist s.slots _).subset (List.mem_map_of_mem hb)
  obtain ⟨slot, hslot, heq⟩ := List.mem_map.mp hkey
  exact heq ▸ isKey_of_mem_slots h hslot

/-! ## Reports -/

/-- What `check` comes to for a command. -/
structure Checks (s : Schema) (verdict : Verdict) : Prop where
  ends : (∃ output, verdict = .ok (output, 0)) ∨ ∃ error, verdict = .error (.markup error)
  of_unmarked : Unmarked s.name → verdict = .ok (Terminal.print ("command: " ++ s.name) ++ slotLines s, 0)
  faithful_iff : IsSteady s.name → ':' ∉ s.name →
    (verdict = .ok ("command: " ++ s.name ++ ['\n'] ++ slotLines s, 0) ↔ Unmarked s.name)

/-- What `extract` comes to for a command and what it reads in a line. -/
structure Extracts (s : Schema) (read : Extraction) (verdict : Verdict) : Prop where
  of_noMatch : read = .noMatch → verdict = .ok ("no match\n", 2)
  of_missing : read = .missingRequired → verdict = .ok (Terminal.print ("missing arguments, usage: " ++ s.usage), 0)
  of_matched : ∀ bindings, read = .matched bindings → ∃ output, verdict = .ok (output, 0) ∧
    ((∀ b ∈ bindings, NamesNoEmoji (Text.quote b.2)) → output = "matched\n" ++ bindingLines bindings)

theorem slots_printed {leader : Char} {usage : Text} {s : Schema} (h : DeclaresCommand leader usage s.name s.slots) :
    s.slots.flatMap printSlot = slotLines s :=
  List.flatMap_congr fun _ hslot => printSlot_eq (isKey_of_mem_slots h hslot)

/-- What comes of a title that was printed, or not. -/
def titled (lines : Text) : Except MarkupError Text → Verdict
  | .error e => .error (.markup e)
  | .ok shown => .ok (shown ++ lines, 0)

theorem check_of_ofUsage {leader : Char} {usage : Text} {s : Schema} (h : Schema.ofUsage [leader] usage false = .ok s) :
    check [leader] usage = titled (slotLines s) (printMarkup (title s.name)) := by
  have htitle : "command: [bold]" ++ s.name ++ "[/bold]" = title s.name := rfl
  rw [check, h]
  dsimp only
  rw [slots_printed (ofUsage_eq_ok_iff.mp h).1, htitle]
  cases printMarkup (title s.name) <;> rfl

theorem checks_of_ofUsage {leader : Char} {usage : Text} {s : Schema} (h : Schema.ofUsage [leader] usage false = .ok s) :
    Checks s (check [leader] usage) := by
  rw [check_of_ofUsage h]
  have hunmarked (hname : Unmarked s.name) : titled (slotLines s) (printMarkup (title s.name)) =
      .ok (Terminal.print ("command: " ++ s.name) ++ slotLines s, 0) :=
    congrArg (titled (slotLines s)) (printMarkup_title_of_unmarked hname)
  refine ⟨?_, hunmarked, fun hsteady hcolon => ⟨fun hshown => ?_, fun hname => ?_⟩⟩
  · cases printMarkup (title s.name) with
    | error e => exact .inr ⟨e, rfl⟩
    | ok shown => exact .inl ⟨_, rfl⟩
  · refine unmarked_of_printMarkup_title hsteady hcolon ?_
    cases hprinted : printMarkup (title s.name) with
    | error e =>
      rw [hprinted] at hshown
      cases hshown
    | ok shown =>
      rw [hprinted] at hshown
      exact congrArg Except.ok (List.append_cancel_right (Prod.mk.inj (Except.ok.inj hshown)).1)
  · have hlabel : "command: ".toList.count ':' = 1 := by decide
    have hcount : ("command: " ++ s.name : Text).count ':' ≤ 1 := by
      rw [List.count_append, List.count_eq_zero.mpr hcolon, hlabel]
    have hprint : Terminal.print ("command: " ++ s.name) = "command: " ++ s.name ++ ['\n'] :=
      print_of_namesNoEmoji (isSteady_label.append hsteady) (namesNoEmoji_of_count hcount)
    rw [hunmarked hname, hprint]

theorem extracts_of_ofUsage {leader : Char} {usage : Text} {s : Schema} (h : Schema.ofUsage [leader] usage false = .ok s)
    (line : Text) : Extracts s (s.extract line) (extract [leader] usage line) := by
  rw [extract, h]
  dsimp only
  have hnoMatch : Terminal.print "no match" = "no match\n" := by decide +kernel
  have hmatched : Terminal.print "matched" = "matched\n" := by decide +kernel
  cases hline : s.extract line with
  | noMatch => exact ⟨fun _ => by rw [hnoMatch], nofun, nofun⟩
  | missingRequired => exact ⟨nofun, fun _ => rfl, nofun⟩
  | matched bindings =>
    refine ⟨nofun, nofun, fun found hfound => ⟨_, rfl, fun hplain => ?_⟩⟩
    obtain rfl := Extraction.matched.inj hfound
    rw [hmatched]
    refine congrArg ("matched\n".toList ++ ·) (List.flatMap_congr fun b hb => ?_)
    exact printBinding_eq (isKey_of_mem_bindings (ofUsage_eq_ok_iff.mp h).1 hline hb) (hplain b hb)

/-- A line that declares no command is refused by both commands, in the words of the error. Of a command, `extract` always ends as its
line was read; `check` ends well or breaks off for the markup in the name, and shows the name as it is just where it holds none. -/
theorem check_and_extract_report (leader : Char) (usage line : Text) :
    (∀ e, Schema.ofUsage [leader] usage false = .error e →
      check [leader] usage = .ok (refusal e, 1) ∧ extract [leader] usage line = .ok (refusal e, 1)) ∧
    ∀ s, Schema.ofUsage [leader] usage false = .ok s →
      Checks s (check [leader] usage) ∧ Extracts s (s.extract line) (extract [leader] usage line) := by
  refine ⟨fun e he => ?_, fun s hs => ⟨checks_of_ofUsage hs, extracts_of_ofUsage hs line⟩⟩
  rw [check, extract, he]
  exact ⟨refuse_eq he, refuse_eq he⟩

/-- A lone bracket in a name is no markup. -/
theorem check_and_extract_report_of_bracket :
    let usage : Text := "!a] <n> <rest...>"
    let s : Schema := ⟨"a]", usage, [⟨"n", .required⟩, ⟨"rest", .flexible⟩], false, ['!']⟩
    Schema.ofUsage ['!'] usage false = .ok s ∧
      check ['!'] usage = .ok ("command: " ++ s.name ++ ['\n'] ++ slotLines s, 0) ∧
      (∃ output, extract ['!'] usage "!a] x y z" = .ok (output, 0)) ∧
      extract ['!'] "!a <n> <n>" "!a x" = .ok (refusal (.duplicateKey "n"), 1) := by
  intro usage s
  have hs : Schema.ofUsage ['!'] usage false = .ok s := by decide
  have hmatched : s.extract "!a] x y z" = .matched [("n", "x"), ("rest", "y z")] := by decide
  have hname : Unmarked s.name := by
    have hbracket : '[' ∉ s.name := by decide
    refine ⟨⟨?_, by decide⟩, by decide⟩
    rintro before tag after h -
    exact hbracket (by rw [h]; simp)
  obtain ⟨hchecks, hextracts⟩ := (check_and_extract_report '!' usage "!a] x y z").2 s hs
  obtain ⟨output, houtput, -⟩ := hextracts.of_matched _ hmatched
  have hsteady : IsSteady s.name := by decide
  exact ⟨hs, (hchecks.faithful_iff hsteady (by decide)).mpr hname, ⟨output, houtput⟩,
    ((check_and_extract_report '!' "!a <n> <n>" "!a x").1 _ (by decide)).2⟩

/-- The check of a usage line that is read breaks off: its name ends the style that it is shown in. -/
theorem name_breaks_check :
    (∃ s, Schema.ofUsage ['!'] "!a[/] <n>" false = .ok s) ∧
      check ['!'] "!a[/] <n>" = .error (.markup (.unopened bold)) := by
  refine ⟨⟨⟨"a[/]", "!a[/] <n>", [⟨"n", .required⟩], false, ['!']⟩, by decide⟩, ?_⟩
  decide +kernel

end ChatBot.CommandLine
