import ChatBot.Proofs.Template.Layout

/-!
Which bodies are well formed. Every text is either laid out in texts and placeholders or breaks off at an opening behind which there
is no placeholder; reading its keys tells which, and why.
-/
set_option autoImplicit false

namespace ChatBot.Template

/-! ## Bodies that break off -/

/-- Why no placeholder ends behind the key that has been read: a brace opens, one closes an empty key, or the text is over. -/
def Obstructs (key rest : Text) : TemplateError → Prop
  | .nested => ['\x7b'] <+: rest
  | .empty => key = [] ∧ ['\x7d'] <+: rest
  | .unterminated => rest = []

/-- The body is laid out as far as some opening, and what stands behind that is no placeholder. -/
def BreaksOff (error : TemplateError) (body : Text) : Prop :=
  ∃ (l : Layout) (key rest : Text), l.Sound ∧ '\x7b' ∉ key ∧ '\x7d' ∉ key ∧ Obstructs key rest error ∧
    body = l.written ++ '$' :: '\x7b' :: (key ++ rest)

theorem exists_first_opening {t : Text} (h : ¬ Plain t) : ∃ text rest, Plain text ∧ t = text ++ '$' :: '\x7b' :: rest := by
  induction t with
  | nil => exact absurd (plain_of_not_mem List.not_mem_nil) h
  | cons c t ih =>
    by_cases hopens : ['$', '\x7b'] <+: c :: t
    · obtain ⟨rest, hrest⟩ := hopens
      exact ⟨[], rest, plain_of_not_mem List.not_mem_nil, hrest.symm⟩
    · obtain ⟨text, rest, htext, rfl⟩ := ih fun ht => h (plain_cons_iff.mpr ⟨hopens, ht⟩)
      refine ⟨c :: text, rest, plain_cons_iff.mpr ⟨fun hc => hopens ?_, htext⟩, rfl⟩
      exact hc.trans (List.prefix_append (c :: text) _)

/-- A text is cut before its first brace. -/
theorem exists_key (t : Text) : ∃ key rest, '\x7b' ∉ key ∧ '\x7d' ∉ key ∧ t = key ++ rest ∧
    ∀ c, rest.head? = some c → c = '\x7b' ∨ c = '\x7d' := by
  induction t with
  | nil => exact ⟨[], [], List.not_mem_nil, List.not_mem_nil, rfl, nofun⟩
  | cons c t ih =>
    by_cases hc : c = '\x7b' ∨ c = '\x7d'
    · refine ⟨[], c :: t, List.not_mem_nil, List.not_mem_nil, rfl, fun d hd => ?_⟩
      rwa [← Option.some.inj hd]
    · rw [not_or] at hc
      obtain ⟨key, rest, hopen, hclose, rfl, hrest⟩ := ih
      exact ⟨c :: key, rest, List.not_mem_cons_of_ne_of_not_mem (Ne.symm hc.1) hopen,
        List.not_mem_cons_of_ne_of_not_mem (Ne.symm hc.2) hclose, rfl, hrest⟩

theorem BreaksOff.behind {text key body : Text} {e : TemplateError} (h : BreaksOff e body) (htext : Plain text)
    (hkey : IsKey key) : BreaksOff e (text ++ (placeholder key ++ body)) := by
  obtain ⟨l, key', rest, hl, hopen, hclose, hobstructs, rfl⟩ := h
  exact ⟨.piece text key l, key', rest, ⟨htext, hkey, hl⟩, hopen, hclose, hobstructs, by simp [Layout.written]⟩

/-- Every body is laid out, or else breaks off. -/
theorem exists_layout_or_breaksOff (body : Text) :
    (∃ l : Layout, l.Sound ∧ l.written = body) ∨ ∃ e, BreaksOff e body := by
  -- Behind a placeholder there is less to lay out, so the induction is on the length.
  induction hlength : body.length using Nat.strongRecOn generalizing body with
  | ind n ih =>
    by_cases hplain : Plain body
    · exact .inl ⟨.last body, hplain, rfl⟩
    obtain ⟨text, behind, htext, rfl⟩ := exists_first_opening hplain
    obtain ⟨key, rest, hopen, hclose, rfl, hrest⟩ := exists_key behind
    have hbreaks : ∀ {e}, Obstructs key rest e → BreaksOff e (text ++ '$' :: '\x7b' :: (key ++ rest)) :=
      fun h => ⟨.last text, key, rest, htext, hopen, hclose, h, rfl⟩
    cases rest with
    | nil => exact .inr ⟨.unterminated, hbreaks rfl⟩
    | cons c rest =>
      rcases hrest c rfl with rfl | rfl
      · exact .inr ⟨.nested, hbreaks ⟨rest, rfl⟩⟩
      by_cases hkey : key = []
      · exact .inr ⟨.empty, hbreaks ⟨hkey, rest, rfl⟩⟩
      rw [← placeholder_append]
      have hshorter : rest.length < n := by
        rw [← hlength]
        simp only [List.length_append, List.length_cons]
        omega
      rcases ih rest.length hshorter rest rfl with ⟨l, hl, rfl⟩ | ⟨e, he⟩
      · exact .inl ⟨.piece text key l, ⟨htext, ⟨hkey, hopen, hclose⟩, hl⟩, rfl⟩
      · exact .inr ⟨e, he.behind htext ⟨hkey, hopen, hclose⟩⟩

/-! ## What reading makes of them -/

theorem keysFrom_obstructed {opened key rest : Text} {e : TemplateError} (hopen : '\x7b' ∉ key) (hclose : '\x7d' ∉ key)
    (h : Obstructs (opened.reverse ++ key) rest e) : keysFrom (some opened) (key ++ rest) = .error e := by
  induction key generalizing opened with
  | nil =>
    cases e with
    | nested =>
      obtain ⟨rest, rfl⟩ := h
      simp [keysFrom]
    | empty =>
      obtain ⟨hkey, rest, rfl⟩ := h
      obtain rfl : opened = [] := by simpa using hkey
      simp [keysFrom]
    | unterminated =>
      obtain rfl : rest = [] := h
      rfl
  | cons c key ih =>
    rw [List.mem_cons, not_or] at hopen hclose
    by_cases hopens : ['$', '\x7b'] <+: c :: (key ++ rest)
    · -- The two characters of an opening can only meet where the key ends, and then a brace opens within the placeholder.
      obtain ⟨rfl, hbrace⟩ := List.cons_prefix_cons.mp hopens
      obtain rfl : key = [] := by
        cases key with
        | nil => rfl
        | cons d key => exact absurd (List.mem_cons.mpr (.inl (List.cons_prefix_cons.mp hbrace).1)) hopen.2
      obtain ⟨rest, rfl⟩ := hbrace
      cases e with
      | nested => simp [keysFrom]
      | empty =>
        obtain ⟨hkey, -⟩ := h
        simp at hkey
      | unterminated => cases h
    · have hnext : (c :: opened).reverse ++ key = opened.reverse ++ c :: key := by simp
      rw [List.cons_append, keysFrom_some_cons (Ne.symm hopen.1) (Ne.symm hclose.1) hopens]
      exact ih hopen.2 hclose.2 (by rwa [hnext])

theorem keys_of_breaksOff {body : Text} {e : TemplateError} (h : BreaksOff e body) : keys body = .error e := by
  obtain ⟨l, key, rest, hl, hopen, hclose, hobstructs, rfl⟩ := h
  have hopening : keysFrom none ('$' :: '\x7b' :: (key ++ rest)) = keysFrom (some []) (key ++ rest) := by
    simp [keysFrom]
  have hbroken : keysFrom (some []) (key ++ rest) = .error e := keysFrom_obstructed hopen hclose hobstructs
  rw [keys, hl.keysFrom_append (by simp), hopening, hbroken]
  rfl

theorem keys_eq_ok_iff {body : Text} {ks : List Text} :
    keys body = .ok ks ↔ ∃ l : Layout, (l.Sound ∧ l.written = body) ∧ l.keys = ks := by
  constructor
  · intro h
    rcases exists_layout_or_breaksOff body with ⟨l, hl, rfl⟩ | ⟨e, he⟩
    · exact ⟨l, ⟨hl, rfl⟩, Except.ok.inj (hl.keys_written.symm.trans h)⟩
    · rw [keys_of_breaksOff he] at h
      cases h
  · rintro ⟨l, ⟨hl, rfl⟩, rfl⟩
    exact hl.keys_written

theorem keys_eq_error_iff {body : Text} {e : TemplateError} : keys body = .error e ↔ BreaksOff e body := by
  refine ⟨fun h => ?_, keys_of_breaksOff⟩
  rcases exists_layout_or_breaksOff body with ⟨l, hl, rfl⟩ | ⟨e', he'⟩
  · rw [hl.keys_written] at h
    cases h
  · obtain rfl : e' = e := Except.error.inj ((keys_of_breaksOff he').symm.trans h)
    exact he'

/-- A body that can be taken apart can be taken apart in exactly one way. -/
theorem existsUnique_layout {body : Text} {ks : List Text} (h : keys body = .ok ks) :
    ∃ l : Layout, (l.Sound ∧ l.written = body ∧ l.keys = ks) ∧
      ∀ other : Layout, other.Sound → other.written = body → other = l := by
  obtain ⟨l, ⟨hl, hwritten⟩, hkeys⟩ := keys_eq_ok_iff.mp h
  refine ⟨l, ⟨hl, hwritten, hkeys⟩, fun other hother hbody => ?_⟩
  exact hother.eq_of_written_eq hl (hbody.trans hwritten.symm)

/-- The keys of a body are read exactly when the body can be taken apart in texts without openings and placeholders with proper keys.
There is one way to do so then, and the keys are those of the placeholders, in order. Every other body is refused, for what stands
behind the first opening that begins no placeholder. -/
theorem keys_reads_grammar (body : Text) :
    ((∃ ks, keys body = .ok ks) ↔ ∃! l : Layout, l.Sound ∧ l.written = body) ∧
    (∀ ks, keys body = .ok ks ↔ ∃ l : Layout, (l.Sound ∧ l.written = body) ∧ l.keys = ks) ∧
    ((∃ e, keys body = .error e) ↔ ¬ ∃ l : Layout, l.Sound ∧ l.written = body) ∧
    ∀ e, keys body = .error e ↔ BreaksOff e body := by
  refine ⟨⟨?_, ?_⟩, fun ks => keys_eq_ok_iff, ⟨?_, fun hnone => ?_⟩, fun e => keys_eq_error_iff⟩
  · rintro ⟨ks, hks⟩
    obtain ⟨l, ⟨hl, hwritten, -⟩, hunique⟩ := existsUnique_layout hks
    exact ⟨l, ⟨hl, hwritten⟩, fun other h => hunique other h.1 h.2⟩
  · rintro ⟨l, h, -⟩
    exact ⟨l.keys, keys_eq_ok_iff.mpr ⟨l, h, rfl⟩⟩
  · rintro ⟨e, he⟩ ⟨l, h⟩
    have hread : keys body = .ok l.keys := keys_eq_ok_iff.mpr ⟨l, h, rfl⟩
    rw [hread] at he
    cases he
  · obtain ⟨e, he⟩ := (exists_layout_or_breaksOff body).resolve_left hnone
    exact ⟨e, keys_of_breaksOff he⟩

example : keys "$$\x7ba\x7d \x7bb\x7d $\x7bc d$\x7d$" = .ok ["a", "c d$"] := by decide

example : keys "$\x7ba\x7d $\x7b" = .error .unterminated := by decide

end ChatBot.Template
