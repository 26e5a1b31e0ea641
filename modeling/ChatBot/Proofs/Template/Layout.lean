import ChatBot.Proofs.Template.Filling

/-!
A body taken apart into texts and placeholders. A body can be taken apart in at most one way. Replacing the
placeholders of one key fills in that key and touches nothing else; replacing those of several keys in turn comes to the same as
filling in all of them at once, provided no value but the last can be read as the beginning or the end of a placeholder.
-/
set_option autoImplicit false

namespace ChatBot.Template

/-! ## Texts between placeholders -/

/-- A text in which no placeholder opens. -/
def Plain (t : Text) : Prop := ¬ ['$', '\x7b'] <:+: t

instance : DecidablePred Plain := fun t => inferInstanceAs (Decidable (¬ ['$', '\x7b'] <:+: t))

/-- What may stand between the braces of a placeholder. -/
structure IsKey (key : Text) : Prop where
  ne_nil : key ≠ []
  not_open : '\x7b' ∉ key
  not_close : '\x7d' ∉ key

instance : DecidablePred IsKey := fun key =>
  decidable_of_iff (key ≠ [] ∧ '\x7b' ∉ key ∧ '\x7d' ∉ key)
    ⟨fun h => ⟨h.1, h.2.1, h.2.2⟩, fun h => ⟨h.ne_nil, h.not_open, h.not_close⟩⟩

/-- The end of one text and the beginning of the next do not open a placeholder between them. -/
def Apart (t u : Text) : Prop := t.getLast? ≠ some '$' ∨ u.head? ≠ some '\x7b'

theorem plain_cons_iff {c : Char} {t : Text} : Plain (c :: t) ↔ ¬ ['$', '\x7b'] <+: c :: t ∧ Plain t := by
  rw [Plain, List.infix_cons_iff, not_or, Plain]

theorem plain_of_not_mem {t : Text} (h : '\x7b' ∉ t) : Plain t :=
  fun hopens => h (hopens.subset (by decide))

theorem not_opens_append {c : Char} {t u : Text} (ht : Plain (c :: t)) (h : Apart (c :: t) u) :
    ¬ ['$', '\x7b'] <+: c :: (t ++ u) := by
  intro hopens
  obtain ⟨hc, hrest⟩ := List.cons_prefix_cons.mp hopens
  subst hc
  cases t with
  | nil =>
    rcases h with hlast | hhead
    · exact hlast rfl
    · cases u with
      | nil => exact absurd hrest (by decide)
      | cons d u => exact hhead (congrArg some (List.cons_prefix_cons.mp hrest).1.symm)
  | cons d t =>
    obtain ⟨rfl, -⟩ := List.cons_prefix_cons.mp hrest
    exact (plain_cons_iff.mp ht).1 ⟨t, rfl⟩

theorem Apart.tail {c : Char} {t u : Text} (h : Apart (c :: t) u) (ht : t ≠ []) : Apart t u := by
  obtain ⟨d, rest, rfl⟩ := List.exists_cons_of_ne_nil ht
  rwa [Apart, List.getLast?_cons_cons] at h

theorem plain_append {t u : Text} (ht : Plain t) (hu : Plain u) (h : Apart t u) : Plain (t ++ u) := by
  induction t with
  | nil => exact hu
  | cons c t ih =>
    have hrest : Plain (t ++ u) := by
      by_cases hnil : t = []
      · rwa [hnil]
      · exact ih (plain_cons_iff.mp ht).2 (h.tail hnil)
    exact plain_cons_iff.mpr ⟨not_opens_append ht h, hrest⟩

/-! ## Layouts -/

/-- The texts and the placeholder keys of a body, in turn. -/
inductive Layout where
  | last (text : Text)
  | piece (text key : Text) (more : Layout)
  deriving DecidableEq

namespace Layout

/-- The body that is laid out so. -/
def written : Layout → Text
  | last text => text
  | piece text key more => text ++ (placeholder key ++ more.written)

def keys : Layout → List Text
  | last _ => []
  | piece _ key more => key :: more.keys

/-- The body with every placeholder replaced at once; one whose key has no value stays as it is. -/
def filled (value? : Text → Option Text) : Layout → Text
  | last text => text
  | piece text key more => text ++ ((value? key).getD (placeholder key) ++ more.filled value?)

/-- No text of the layout opens a placeholder, and every key may be one. -/
def Sound : Layout → Prop
  | last text => Plain text
  | piece text key more => Plain text ∧ IsKey key ∧ more.Sound

instance decidableSound : DecidablePred Sound
  | last text => inferInstanceAs (Decidable (Plain text))
  | piece text key more =>
    have := decidableSound more
    inferInstanceAs (Decidable (Plain text ∧ IsKey key ∧ more.Sound))

def head : Layout → Text
  | last text => text
  | piece text _ _ => text

def behind (front : Text) : Layout → Layout
  | last text => last (front ++ text)
  | piece text key more => piece (front ++ text) key more

theorem Sound.plain_head {l : Layout} (h : l.Sound) : Plain l.head := by
  cases l with
  | last text => exact h
  | piece text key more => exact h.1

theorem Sound.isKey {l : Layout} (h : l.Sound) {key : Text} (hkey : key ∈ l.keys) : IsKey key := by
  induction l with
  | last text => cases hkey
  | piece text other more ih =>
    rcases List.mem_cons.mp hkey with rfl | hmore
    · exact h.2.1
    · exact ih h.2.2 hmore

theorem filled_behind (value? : Text → Option Text) (front : Text) (l : Layout) :
    (l.behind front).filled value? = front ++ l.filled value? := by
  cases l with
  | last text => rfl
  | piece text key more => exact List.append_assoc front text _

theorem sound_behind {front : Text} {l : Layout} (hfront : Plain (front ++ l.head)) (h : l.Sound) :
    (l.behind front).Sound := by
  cases l with
  | last text => exact hfront
  | piece text key more => exact ⟨hfront, h.2⟩

theorem written_eq_filled (l : Layout) : l.written = l.filled fun _ => none := by
  induction l with
  | last text => rfl
  | piece text key more ih => rw [written, filled, ih, Option.getD_none]

theorem filled_congr {value? value?' : Text → Option Text} {l : Layout} (h : ∀ key ∈ l.keys, value? key = value?' key) :
    l.filled value? = l.filled value?' := by
  induction l with
  | last text => rfl
  | piece text key more ih =>
    have hmore := ih fun key' hkey' => h key' (List.mem_cons_of_mem key hkey')
    rw [filled, filled, hmore, h key List.mem_cons_self]

end Layout

/-! ## Reading a layout off a body -/

theorem keysFrom_none_cons {c : Char} {t : Text} (h : ¬ ['$', '\x7b'] <+: c :: t) :
    keysFrom none (c :: t) = keysFrom none t := by
  rw [keysFrom]
  rintro t' rfl rfl
  exact h ⟨t', rfl⟩

theorem keysFrom_append_of_plain {t u : Text} (ht : Plain t) (h : Apart t u) :
    keysFrom none (t ++ u) = keysFrom none u := by
  induction t with
  | nil => rfl
  | cons c t ih =>
    rw [List.cons_append, keysFrom_none_cons (not_opens_append ht h)]
    by_cases hnil : t = []
    · rw [hnil, List.nil_append]
    · exact ih (plain_cons_iff.mp ht).2 (h.tail hnil)

theorem keysFrom_some_cons {c : Char} {opened t : Text} (hopen : c ≠ '\x7b') (hclose : c ≠ '\x7d')
    (h : ¬ ['$', '\x7b'] <+: c :: t) : keysFrom (some opened) (c :: t) = keysFrom (some (c :: opened)) t := by
  rw [keysFrom]
  · simp only [if_neg hopen, if_neg hclose]
  · rintro t' rfl rfl
    exact h ⟨t', rfl⟩

theorem keysFrom_key {opened key rest : Text} (hopen : '\x7b' ∉ key) (hclose : '\x7d' ∉ key)
    (hne : opened.reverse ++ key ≠ []) :
    keysFrom (some opened) (key ++ '\x7d' :: rest) = (keysFrom none rest).map ((opened.reverse ++ key) :: ·) := by
  induction key generalizing opened with
  | nil =>
    have hopened : opened.isEmpty = false := by
      rw [List.append_nil] at hne
      simpa using hne
    rw [List.nil_append, keysFrom]
    · simp [hopened]
    · intro t' hc
      cases hc
  | cons c key ih =>
    rw [List.mem_cons, not_or] at hopen hclose
    have hplain : Plain (c :: key) := plain_of_not_mem (List.not_mem_cons_of_ne_of_not_mem hopen.1 hopen.2)
    have hnext : (c :: opened).reverse ++ key = opened.reverse ++ c :: key := by simp
    rw [List.cons_append, keysFrom_some_cons (Ne.symm hopen.1) (Ne.symm hclose.1)
      (not_opens_append hplain (.inr (by simp))), ih hopen.2 hclose.2 (by rwa [hnext]), hnext]

namespace Layout

theorem Sound.keysFrom_append {l : Layout} (h : l.Sound) {u : Text} (hu : u.head? ≠ some '\x7b') :
    keysFrom none (l.written ++ u) = (keysFrom none u).map (l.keys ++ ·) := by
  induction l with
  | last text =>
    rw [written, keysFrom_append_of_plain h (.inr hu)]
    cases keysFrom none u <;> rfl
  | piece text key more ih =>
    obtain ⟨htext, hkey, hmore⟩ := h
    have hopening : keysFrom none (placeholder key ++ (more.written ++ u)) =
        keysFrom (some []) (key ++ '\x7d' :: (more.written ++ u)) := by
      simp [placeholder, keysFrom]
    rw [written, List.append_assoc, List.append_assoc, keysFrom_append_of_plain htext (.inr (by simp [placeholder])),
      hopening, keysFrom_key hkey.not_open hkey.not_close (by simpa using hkey.ne_nil), ih hmore]
    cases keysFrom none u <;> rfl

theorem Sound.keys_written {l : Layout} (h : l.Sound) : Template.keys l.written = .ok l.keys := by
  have hread := h.keysFrom_append (u := []) (by simp)
  rw [List.append_nil] at hread
  rw [Template.keys, hread, keysFrom]
  simp [Except.map]

end Layout

/-! ## Only one layout -/

/-- A plain text cannot reach over the place where another text has its first placeholder. -/
theorem eq_nil_of_opening_eq {mid u u' : Text} (hplain : Plain mid)
    (h : '$' :: '\x7b' :: u = mid ++ '$' :: '\x7b' :: u') : mid = [] := by
  match mid with
  | [] => rfl
  | [c] => cases h
  | c :: d :: mid =>
    obtain ⟨rfl, hrest⟩ := List.cons.inj h
    obtain ⟨rfl, -⟩ := List.cons.inj hrest
    exact absurd ⟨[], mid, rfl⟩ hplain

theorem Plain.of_append {t u : Text} (h : Plain (t ++ u)) : Plain u :=
  fun hopens => h (hopens.trans (List.suffix_append t u).isInfix)

theorem append_opening_inj {t t' u u' : Text} (ht : Plain t) (ht' : Plain t')
    (h : t ++ '$' :: '\x7b' :: u = t' ++ '$' :: '\x7b' :: u') : t = t' ∧ u = u' := by
  have htexts : t = t' := by
    rcases List.append_eq_append_iff.mp h with ⟨mid, rfl, hmid⟩ | ⟨mid, rfl, hmid⟩
    · rw [eq_nil_of_opening_eq ht'.of_append hmid, List.append_nil]
    · rw [eq_nil_of_opening_eq ht.of_append hmid, List.append_nil]
  subst htexts
  have hrest := List.append_cancel_left h
  exact ⟨rfl, (List.cons.inj (List.cons.inj hrest).2).2⟩

theorem append_close_inj {key key' u u' : Text} (hkey : '\x7d' ∉ key) (hkey' : '\x7d' ∉ key')
    (h : key ++ '\x7d' :: u = key' ++ '\x7d' :: u') : key = key' ∧ u = u' := by
  have hkeys : key = key' := by
    have htake := congrArg (List.takeWhile (· ≠ '\x7d')) h
    have hall : ∀ {t : Text}, '\x7d' ∉ t → ∀ c ∈ t, decide (c ≠ '\x7d') = true :=
      fun ht c hc => decide_eq_true fun he => ht (he ▸ hc)
    rwa [List.takeWhile_append_of_pos (hall hkey), List.takeWhile_append_of_pos (hall hkey'),
      List.takeWhile_cons_of_neg (by simp), List.takeWhile_cons_of_neg (by simp), List.append_nil, List.append_nil] at htake
  subst hkeys
  exact ⟨rfl, (List.cons.inj (List.append_cancel_left h)).2⟩

theorem placeholder_append (key rest : Text) : placeholder key ++ rest = '$' :: '\x7b' :: (key ++ '\x7d' :: rest) := by
  simp [placeholder]

namespace Layout

theorem not_plain_piece (text key : Text) (more : Layout) : ¬ Plain (piece text key more).written := by
  intro hplain
  refine hplain ⟨text, key ++ '\x7d' :: more.written, ?_⟩
  rw [written, placeholder_append, List.append_assoc]
  rfl

theorem Sound.eq_of_written_eq {l l' : Layout} (hl : l.Sound) (hl' : l'.Sound) (h : l.written = l'.written) : l = l' := by
  induction l generalizing l' with
  | last text =>
    cases l' with
    | last text' => exact congrArg last h
    | piece text' key' more' =>
      have hplain : Plain (last text).written := hl
      rw [h] at hplain
      exact absurd hplain (not_plain_piece text' key' more')
  | piece text key more ih =>
    cases l' with
    | last text' =>
      have hplain : Plain (last text').written := hl'
      rw [← h] at hplain
      exact absurd hplain (not_plain_piece text key more)
    | piece text' key' more' =>
      rw [written, written, placeholder_append, placeholder_append] at h
      obtain ⟨rfl, hrest⟩ := append_opening_inj hl.1 hl'.1 h
      obtain ⟨rfl, hmore⟩ := append_close_inj hl.2.1.not_close hl'.2.1.not_close hrest
      rw [ih hl.2.2 hl'.2.2 hmore]

end Layout

/-! ## Replacing the placeholders of one key -/

theorem opening_prefix_placeholder (key : Text) : ['$', '\x7b'] <+: placeholder key := ⟨key ++ ['\x7d'], rfl⟩

theorem replaceAll_append_of_plain {t u : Text} (ht : Plain t) (h : Apart t u) (key value : Text) :
    Text.replaceAll (placeholder key) value (t ++ u) = t ++ Text.replaceAll (placeholder key) value u := by
  induction t with
  | nil => rfl
  | cons c t ih =>
    have hstart : ¬ placeholder key <+: c :: (t ++ u) :=
      fun hstarts => not_opens_append ht h ((opening_prefix_placeholder key).trans hstarts)
    rw [List.cons_append, Text.replaceAll_cons hstart]
    by_cases hnil : t = []
    · rw [hnil]
      rfl
    · rw [ih (plain_cons_iff.mp ht).2 (h.tail hnil)]
      rfl

/-- Replacing the placeholders of one key passes over those of another. -/
theorem replaceAll_placeholder_of_ne {key other : Text} (hkey : '\x7d' ∉ key) (hother : IsKey other) (hne : other ≠ key)
    (value u : Text) :
    Text.replaceAll (placeholder key) value (placeholder other ++ u) =
      placeholder other ++ Text.replaceAll (placeholder key) value u := by
  have hstart : ¬ placeholder key <+: '$' :: ('\x7b' :: other ++ ['\x7d'] ++ u) := by
    rintro ⟨rest, hrest⟩
    have heq : '$' :: '\x7b' :: (key ++ '\x7d' :: rest) = '$' :: '\x7b' :: (other ++ '\x7d' :: u) := by
      rw [← placeholder_append, hrest]
      simp
    have hbraces := (List.cons.inj (List.cons.inj heq).2).2
    exact hne (append_close_inj hkey hother.not_close hbraces).1.symm
  have hplain : Plain ('\x7b' :: other ++ ['\x7d']) := by
    refine plain_cons_iff.mpr ⟨fun hopens => ?_, plain_of_not_mem ?_⟩
    · cases (List.cons_prefix_cons.mp hopens).1
    · rw [List.append_eq, List.mem_append, not_or]
      exact ⟨hother.not_open, by decide⟩
  have hapart : Apart ('\x7b' :: other ++ ['\x7d']) u := .inl (by rw [List.getLast?_concat]; decide)
  have hsplit : placeholder other ++ u = '$' :: ('\x7b' :: other ++ ['\x7d'] ++ u) := rfl
  rw [hsplit, Text.replaceAll_cons hstart, replaceAll_append_of_plain hplain hapart]
  rfl

namespace Layout

theorem Sound.replaceAll_written {l : Layout} (hl : l.Sound) {key : Text} (hkey : '\x7d' ∉ key) (value : Text) :
    Text.replaceAll (placeholder key) value l.written = l.filled fun k => if k = key then some value else none := by
  induction l with
  | last text =>
    have hplain := replaceAll_append_of_plain hl (u := []) (.inr (by decide)) key value
    rw [List.append_nil] at hplain
    rw [written, hplain]
    exact List.append_nil text
  | piece text other more ih =>
    obtain ⟨htext, hother, hmore⟩ := hl
    have hapart : Apart text (placeholder other ++ more.written) := .inr (by rw [placeholder_append]; simp)
    rw [written, filled, replaceAll_append_of_plain htext hapart]
    by_cases heq : other = key
    · subst heq
      have hne : placeholder other ≠ [] := List.cons_ne_nil _ _
      rw [Text.replaceAll_append_self hne, ih hmore, if_pos rfl]
      rfl
    · rw [replaceAll_placeholder_of_ne hkey hother heq, ih hmore, if_neg heq]
      rfl

end Layout

/-! ## Replacing those of several keys in turn -/

/-- No part of the value can belong to a placeholder, whatever stands before and behind it. -/
structure Inert (value : Text) : Prop where
  ne_nil : value ≠ []
  not_open : '\x7b' ∉ value
  not_dollar : value.getLast? ≠ some '$'

instance : DecidablePred Inert := fun value =>
  decidable_of_iff (value ≠ [] ∧ '\x7b' ∉ value ∧ value.getLast? ≠ some '$')
    ⟨fun h => ⟨h.1, h.2.1, h.2.2⟩, fun h => ⟨h.ne_nil, h.not_open, h.not_dollar⟩⟩

theorem Inert.plain_between {value t u : Text} (h : Inert value) (ht : Plain t) (hu : Plain u) :
    Plain (t ++ value ++ u) := by
  have hbefore : Plain (t ++ value) := by
    refine plain_append ht (plain_of_not_mem h.not_open) (.inr fun hhead => ?_)
    exact h.not_open (List.mem_of_mem_head? hhead)
  refine plain_append hbefore hu (.inl ?_)
  rw [List.getLast?_append_of_ne_nil _ h.ne_nil]
  exact h.not_dollar

namespace Layout

/-- The layout once the placeholders of a key have become text. -/
def inline (key value : Text) : Layout → Layout
  | last text => last text
  | piece text k more =>
    if k = key then (more.inline key value).behind (text ++ value) else piece text k (more.inline key value)

theorem filled_inline (value? : Text → Option Text) (key value : Text) (l : Layout) :
    (l.inline key value).filled value? = l.filled fun k => if k = key then some value else value? k := by
  induction l with
  | last text => rfl
  | piece text k more ih =>
    rw [inline, filled]
    split
    · rw [filled_behind, ih, Option.getD_some, List.append_assoc]
    · rw [filled, ih]

theorem Sound.inline {l : Layout} (hl : l.Sound) (key : Text) {value : Text} (hvalue : Inert value) :
    (l.inline key value).Sound := by
  induction l with
  | last text => exact hl
  | piece text k more ih =>
    obtain ⟨htext, hk, hmore⟩ := hl
    rw [Layout.inline]
    split
    · exact sound_behind (hvalue.plain_between htext (ih hmore).plain_head) (ih hmore)
    · exact ⟨htext, hk, ih hmore⟩

/-- Passes over a body, each replacing the placeholders of one key, fill in all the keys at once, if every value but that of the
last pass is inert. -/
theorem Sound.foldl_replaceAll {l : Layout} (hl : l.Sound) {passes : Assoc Text Text}
    (hkeys : ∀ pass ∈ passes, '\x7d' ∉ pass.1) (hinert : ∀ pass ∈ passes.dropLast, Inert pass.2) :
    passes.foldl (fun text pass => Text.replaceAll (placeholder pass.1) pass.2 text) l.written = l.filled passes.find? := by
  induction passes generalizing l with
  | nil => exact l.written_eq_filled
  | cons pass passes ih =>
    obtain ⟨key, value⟩ := pass
    have hkey : '\x7d' ∉ key := hkeys _ List.mem_cons_self
    have hfind : Assoc.find? ((key, value) :: passes) = fun k => if k = key then some value else Assoc.find? passes k := by
      funext k
      simp only [Assoc.find?, eq_comm]
    rw [List.foldl_cons, hl.replaceAll_written hkey, hfind]
    cases passes with
    | nil => rfl
    | cons next passes =>
      -- The value of this pass is inert, so what the pass leaves is laid out again, and the later passes see that layout.
      have hvalue : Inert value := hinert (key, value) List.mem_cons_self
      have hinlined := filled_inline (fun _ => none) key value l
      rw [← written_eq_filled] at hinlined
      have hlater := ih (hl.inline key hvalue) (fun pass h => hkeys pass (List.mem_cons_of_mem _ h))
        fun pass h => hinert pass (List.mem_cons_of_mem _ h)
      rw [← hinlined, hlater, filled_inline]

end Layout

/-! ## Applying a template -/

/-- The passes over a body with these keys: one for each key that has a value, in order. -/
def passes (value? : Text → Option Text) (ks : List Text) : Assoc Text Text :=
  ks.filterMap fun key => (value? key).map (key, ·)

def replacePasses (passes : Assoc Text Text) (body : Text) : Text :=
  passes.foldl (fun text pass => Text.replaceAll (placeholder pass.1) pass.2 text) body

theorem find?_passes (value? : Text → Option Text) (ks : List Text) (key : Text) :
    (passes value? ks).find? key = if key ∈ ks then value? key else none := by
  induction ks with
  | nil => rfl
  | cons other ks ih =>
    have hmem : key ∈ other :: ks ↔ other = key ∨ key ∈ ks := by rw [List.mem_cons, eq_comm]
    cases hvalue : value? other with
    | none =>
      have hpasses : passes value? (other :: ks) = passes value? ks := List.filterMap_cons_none (by rw [hvalue]; rfl)
      rw [hpasses, ih]
      by_cases hother : other = key
      · subst hother
        rw [if_pos (hmem.mpr (.inl rfl)), hvalue]
        split <;> rfl
      · simp only [hmem, hother, false_or]
    | some value =>
      have hpasses : passes value? (other :: ks) = (other, value) :: passes value? ks :=
        List.filterMap_cons_some (by rw [hvalue]; rfl)
      rw [hpasses, Assoc.find?, ih]
      by_cases hother : other = key
      · subst hother
        rw [if_pos rfl, if_pos (hmem.mpr (.inl rfl)), hvalue]
      · simp only [hmem, hother, false_or, if_false]

theorem mem_of_mem_passes {value? : Text → Option Text} {ks : List Text} {pass : Text × Text}
    (h : pass ∈ passes value? ks) : pass.1 ∈ ks := by
  obtain ⟨key, hkey, hpass⟩ := List.mem_filterMap.mp h
  obtain ⟨value, -, rfl⟩ := Option.map_eq_some_iff.mp hpass
  exact hkey

/-- Where every value but that of the last pass is inert, the passes fill in all placeholders at once. -/
theorem Layout.Sound.replacePasses_written {l : Layout} (hl : l.Sound) {value? : Text → Option Text}
    (hinert : ∀ pass ∈ (passes value? l.keys.eraseDups).dropLast, Inert pass.2) :
    replacePasses (passes value? l.keys.eraseDups) l.written = l.filled value? := by
  have hkeys : ∀ pass ∈ passes value? l.keys.eraseDups, '\x7d' ∉ pass.1 := fun pass hpass =>
    (hl.isKey (List.mem_eraseDups.mp (mem_of_mem_passes hpass))).not_close
  rw [replacePasses, hl.foldl_replaceAll hkeys hinert]
  refine Layout.filled_congr fun key hkey => ?_
  rw [find?_passes, if_pos (List.mem_eraseDups.mpr hkey)]

theorem Environment.fill_eq_replacePasses (env : Environment Id) (ks : List Text) (body : Text) :
    env.fill ks body = replacePasses (passes env.resolve? ks) body := by
  induction ks generalizing body with
  | nil => rfl
  | cons key ks ih =>
    rw [passes, List.filterMap_cons]
    cases hvalue : env.resolve? key with
    | none => exact (fill_cons_of_none hvalue ks body).trans (ih body)
    | some value => exact (fill_cons_of_some hvalue ks body).trans (ih _)

end ChatBot.Template
