import ChatBot.Terminal.Markup
import ChatBot.Proofs.Terminal.Verbatim

/-!
What markup makes of a text. A text that is printed in a style comes out as it is just where it holds no tag, no backslash before a
bracket and none at its end. Each of these costs something: tags are not shown, and of the backslashes before a bracket some are
not, so a count of the characters in which a backslash counts for more can only fall.
-/
set_option autoImplicit false

namespace ChatBot.Terminal

/-- What may stand between the brackets of a tag. -/
def IsTag (tag : Text) : Prop := ∃ c body, tag = c :: body ∧ isTagStart c = true ∧ '[' ∉ body ∧ ']' ∉ body

/-- No tag stands in the text, and no backslash before one that follows. -/
structure TakesTag (t : Text) : Prop where
  no_tag : ∀ before tag after, t = before ++ '[' :: tag ++ ']' :: after → ¬ IsTag tag
  no_end : ¬ (['\\'] : Text) <:+ t

/-- Markup has no part in the text, nor the text in a tag that follows. -/
structure Unmarked (t : Text) : Prop extends TakesTag t where
  no_escape : ¬ (['\\', '['] : Text) <:+: t

/-! ## Tags -/

theorem IsTag.not_mem {tag : Text} (h : IsTag tag) : '[' ∉ tag ∧ ']' ∉ tag := by
  obtain ⟨c, body, rfl, hc, hopen, hclose⟩ := h
  have hne {mark : Char} (hmark : isTagStart mark = false) : mark ≠ c := by
    rintro rfl
    rw [hc] at hmark
    cases hmark
  exact ⟨List.not_mem_cons_of_ne_of_not_mem (hne (by decide)) hopen, List.not_mem_cons_of_ne_of_not_mem (hne (by decide)) hclose⟩

theorem tagText?_eq_some_iff {t tag : Text} : tagText? t = some tag ↔ IsTag tag ∧ ∃ after, t = tag ++ ']' :: after := by
  constructor
  · intro h
    cases t with
    | nil => cases h
    | cons c t =>
      rw [tagText?] at h
      split at h
      · rename_i hc
        dsimp only at h
        split at h
        · rename_i hclosed
          obtain rfl := Option.some.inj h
          obtain ⟨after, hafter⟩ := List.head?_eq_some_iff.mp hclosed
          have hpart (d : Char) (hd : d ∈ t.takeWhile fun c => c != '[' && c != ']') : d ≠ '[' ∧ d ≠ ']' := by
            simpa using List.mem_takeWhile_imp hd
          refine ⟨⟨c, _, rfl, hc, fun h => (hpart _ h).1 rfl, fun h => (hpart _ h).2 rfl⟩, after, ?_⟩
          rw [List.cons_append, ← hafter, drop_length_takeWhile, List.takeWhile_append_dropWhile]
        · cases h
      · cases h
  · rintro ⟨⟨c, body, rfl, hc, hopen, hclose⟩, after, rfl⟩
    have hbody : (body ++ ']' :: after).takeWhile (fun c => c != '[' && c != ']') = body := by
      rw [List.takeWhile_append_of_pos, List.takeWhile_cons_of_neg (by simp), List.append_nil]
      intro d hd
      have hd' : d ≠ '[' ∧ d ≠ ']' := ⟨fun h => hopen (h ▸ hd), fun h => hclose (h ▸ hd)⟩
      simp [hd']
    rw [List.cons_append, tagText?, if_pos hc, hbody]
    dsimp only
    rw [List.drop_left]
    rfl

theorem tagAt?_of_bracket (n : ℕ) (t : Text) :
    tagAt? (List.replicate n '\\' ++ '[' :: t) = (tagText? t).map fun tag => (n, tag) := by
  have hescapes : (List.replicate n '\\' ++ '[' :: t).takeWhile (· == '\\') = List.replicate n '\\' := by
    rw [List.takeWhile_append_of_pos (by simp), List.takeWhile_cons_of_neg (by decide), List.append_nil]
  rw [tagAt?, hescapes]
  rw [List.drop_left, List.length_replicate]
  rfl

theorem exists_of_tagAt? {t tag : Text} {n : ℕ} (h : tagAt? t = some (n, tag)) :
    ∃ rest, t = List.replicate n '\\' ++ '[' :: rest ∧ tagText? rest = some tag := by
  obtain ⟨k, hk, -⟩ := Text.exists_replicate_append_dropWhile '\\' t
  have hlength : (t.takeWhile (· == '\\')).length = k := by
    have hsum := congrArg List.length (List.takeWhile_append_dropWhile (p := (· == '\\')) (l := t))
    have hsum' := congrArg List.length hk
    simp only [List.length_append, List.length_replicate] at hsum hsum'
    omega
  rw [tagAt?] at h
  rw [drop_length_takeWhile, hlength] at h
  split at h
  · rename_i rest hrest
    obtain ⟨found, hfound, heq⟩ := Option.map_eq_some_iff.mp h
    cases heq
    exact ⟨rest, hrest ▸ hk, hfound⟩
  · cases h

/-- Backslashes and a tag are found at the head of a text just where they stand there. -/
theorem tagAt?_eq_some_iff {t tag : Text} {n : ℕ} :
    tagAt? t = some (n, tag) ↔ IsTag tag ∧ ∃ after, t = List.replicate n '\\' ++ '[' :: tag ++ ']' :: after := by
  constructor
  · intro h
    obtain ⟨rest, rfl, hrest⟩ := exists_of_tagAt? h
    obtain ⟨htag, after, rfl⟩ := tagText?_eq_some_iff.mp hrest
    exact ⟨htag, after, by simp⟩
  · rintro ⟨htag, after, rfl⟩
    rw [List.append_assoc, List.cons_append, tagAt?_of_bracket, tagText?_eq_some_iff.mpr ⟨htag, after, rfl⟩]
    rfl

theorem tagAt?_cons_eq_none {c : Char} {t : Text} (hbracket : c ≠ '[') (hescape : c ≠ '\\') : tagAt? (c :: t) = none := by
  rw [tagAt?]
  rw [List.takeWhile_cons_of_neg (by simpa using hescape)]
  split
  · rename_i heq
    exact absurd (List.cons.inj heq).1 hbracket
  · rfl

/-! ## Pieces -/

theorem piecesFrom_eq_drop (n : ℕ) (t : Text) : piecesFrom n t = piecesFrom 0 (t.drop n) := by
  induction n generalizing t with
  | zero => rfl
  | succ n ih =>
    cases t with
    | nil => rfl
    | cons c t => exact ih t

/-- Backslashes and a tag make pieces of their own. -/
theorem piecesFrom_tag {tag : Text} (h : IsTag tag) (n : ℕ) (after : Text) :
    piecesFrom 0 (List.replicate n '\\' ++ '[' :: tag ++ ']' :: after) = [] :: tagPieces n tag :: piecesFrom 0 after := by
  have htag : tagAt? (List.replicate n '\\' ++ '[' :: tag ++ ']' :: after) = some (n, tag) :=
    tagAt?_eq_some_iff.mpr ⟨h, after, rfl⟩
  have hlength : (List.replicate n '\\' ++ '[' :: tag).length = n + tag.length + 1 := by simp; omega
  obtain ⟨c, rest, hcons⟩ : ∃ c rest, List.replicate n '\\' ++ '[' :: tag ++ ']' :: after = c :: rest :=
    List.exists_cons_of_ne_nil (by simp)
  have hafter : rest.drop (n + tag.length + 1) = after := by
    have hdrop : (c :: rest).drop (n + tag.length + 1 + 1) = after := by
      rw [← hcons, ← hlength, ← List.drop_drop, List.drop_left]
      rfl
    exact hdrop
  rw [hcons] at htag ⊢
  rw [piecesFrom, htag]
  dsimp only
  rw [piecesFrom_eq_drop, hafter]

/-- The run of a text that is plain. -/
def plainRun : Text → List Piece
  | [] => []
  | c :: t => [.plain (c :: t)]

theorem consPlain_plainRun (c : Char) (t : Text) : consPlain c (plainRun t) = plainRun (c :: t) := by
  cases t <;> rfl

/-- Text in which no tag begins stays together. -/
theorem piecesFrom_append {t rest : Text} {runs : List (List Piece)} (hrest : piecesFrom 0 rest = [] :: runs)
    (h : ∀ s, s ≠ [] → s <:+ t → tagAt? (s ++ rest) = none) : piecesFrom 0 (t ++ rest) = plainRun t :: runs := by
  induction t with
  | nil => exact hrest
  | cons c t ih =>
    have hlater := ih fun s hs hsuffix => h s hs (hsuffix.trans (List.suffix_cons c t))
    have hnone : tagAt? (c :: (t ++ rest)) = none := h (c :: t) (List.cons_ne_nil c t) (List.suffix_refl _)
    rw [List.cons_append, piecesFrom, hnone, hlater]
    dsimp only
    rw [consPlain_plainRun]

/-! ## Weights -/

/-- How much there is of a text, where a backslash counts for as much as the tag that closes the style of a name, and one more. -/
def weight (t : Text) : ℕ := t.length + 7 * t.count '\\'

theorem weight_cons (c : Char) (t : Text) : weight (c :: t) = weight [c] + weight t := by
  simp only [weight, List.length_cons, List.length_nil, List.count_cons, List.count_nil]
  omega

theorem weight_append (first second : Text) : weight (first ++ second) = weight first + weight second := by
  simp only [weight, List.length_append, List.count_append]
  omega

theorem weight_replicate (n : ℕ) : weight (List.replicate n '\\') = 8 * n := by
  simp only [weight, List.length_replicate, List.count_replicate_self]
  omega

/-- How much plain text there is in pieces. -/
def plainWeight : List Piece → ℕ
  | [] => 0
  | .plain t :: ps => weight t + plainWeight ps
  | .tag _ :: ps => plainWeight ps

theorem plainWeight_append (first second : List Piece) : plainWeight (first ++ second) = plainWeight first + plainWeight second := by
  induction first with
  | nil => exact (Nat.zero_add _).symm
  | cons p first ih =>
    cases p with
    | plain t => rw [List.cons_append, plainWeight, plainWeight, ih, Nat.add_assoc]
    | tag tag => exact ih

theorem plainWeight_plain_cons (t : Text) (ps : List Piece) : plainWeight (.plain t :: ps) = weight t + plainWeight ps := rfl

theorem plainWeight_tag_cons (tag : Text) (ps : List Piece) : plainWeight (.tag tag :: ps) = plainWeight ps := rfl

theorem plainWeight_consPlain (c : Char) (run : List Piece) : plainWeight (consPlain c run) = weight [c] + plainWeight run := by
  cases run with
  | nil => rfl
  | cons p run =>
    cases p with
    | plain t => rw [consPlain, plainWeight_plain_cons, plainWeight_plain_cons, weight_cons, Nat.add_assoc]
    | tag tag => rfl

/-- Half of the backslashes before a tag stay, and with an odd one the tag itself. -/
theorem plainWeight_tagPieces_le (n : ℕ) (tag : Text) :
    plainWeight (tagPieces n tag) ≤ 8 * (n / 2) ∨ n % 2 = 1 ∧ plainWeight (tagPieces n tag) ≤ 8 * (n / 2) + 2 + weight tag := by
  have hbrackets : weight ('[' :: tag ++ [']']) = 2 + weight tag := by
    rw [weight_append, weight_cons]
    simp [weight]
    omega
  have hfirst : plainWeight (if n < 2 then [] else [.plain (List.replicate (n / 2) '\\')]) ≤ 8 * (n / 2) := by
    split
    · exact Nat.zero_le _
    · rw [plainWeight_plain_cons, weight_replicate]
      exact Nat.le_refl _
  rw [tagPieces, plainWeight_append]
  by_cases hodd : n % 2 = 1
  · refine .inr ⟨hodd, ?_⟩
    rw [if_pos hodd, plainWeight_plain_cons, hbrackets]
    change _ + (_ + 0) ≤ _
    omega
  · refine .inl ?_
    rw [if_neg hodd, plainWeight_tag_cons]
    exact hfirst

/-- The style in which a name is shown. -/
def bold : Text := ['b', 'o', 'l', 'd']

theorem isTag_bold : IsTag bold := ⟨'b', ['o', 'l', 'd'], rfl, rfl, by decide, by decide⟩

theorem isTag_unbold : IsTag ('/' :: bold) := ⟨'/', bold, rfl, rfl, by decide, by decide⟩

/-- The tag at the end of such a name. -/
def closing : Text := '[' :: '/' :: bold ++ [']']

/-- In a text before the closing tag, a tag is within the text, or it is the closing tag after nothing but backslashes. -/
theorem tagAt?_closing_cases {t tag : Text} {n : ℕ} (h : tagAt? (t ++ closing) = some (n, tag)) :
    (IsTag tag ∧ ∃ after, t = List.replicate n '\\' ++ '[' :: tag ++ ']' :: after) ∨
      (t = List.replicate n '\\' ∧ tag = '/' :: bold) := by
  obtain ⟨htag, after, hafter⟩ := tagAt?_eq_some_iff.mp h
  have hsplit : t ++ closing = (List.replicate n '\\' ++ '[' :: (tag ++ [']'])) ++ after := by simpa using hafter
  rcases List.append_eq_append_iff.mp hsplit with ⟨overlap, hoverlap, hclosing⟩ | ⟨after', rfl, -⟩
  · cases overlap with
    | nil => exact .inl ⟨htag, [], by simpa using hoverlap.symm⟩
    | cons c overlap =>
      obtain rfl : c = '[' := (List.cons.inj hclosing).1.symm
      have hescapes : '[' ∉ List.replicate n '\\' := by simp
      have htail : '[' ∉ tag ++ [']'] := by simp [htag.not_mem.1]
      obtain ⟨rfl, -, rfl⟩ := (List.append_cons_inj_of_notMem hescapes htail).mp hoverlap
      have hend : '/' :: bold ++ ']' :: [] = tag ++ ']' :: after :=
        (List.cons.inj hclosing).2.trans (List.append_assoc tag [']'] after)
      exact .inr ⟨rfl, ((List.append_cons_inj_of_notMem (by decide) List.not_mem_nil).mp hend).1.symm⟩
  · exact .inl ⟨htag, after', by simp⟩

theorem piecesFrom_closing : piecesFrom 0 closing = [[], [.tag ('/' :: bold)], []] := by decide

theorem TakesTag.cons {c : Char} {t : Text} (h : TakesTag t) (hnone : tagAt? (c :: t ++ closing) = none) : TakesTag (c :: t) where
  no_tag before tag after ht htag := by
    cases before with
    | nil =>
      have hsome : tagAt? (c :: t ++ closing) = some (0, tag) :=
        tagAt?_eq_some_iff.mpr ⟨htag, after ++ closing, by rw [ht]; simp⟩
      rw [hsome] at hnone
      cases hnone
    | cons b before => exact h.no_tag before tag after (List.cons.inj ht).2 htag
  no_end hend := by
    rcases List.suffix_cons_iff.mp hend with hall | hlater
    · obtain ⟨rfl, rfl⟩ := List.cons.inj hall
      revert hnone
      decide
    · exact h.no_end hlater

/-- There is no more plain text than there was text, and as much only where markup has no part in it. -/
theorem plainWeight_closing_le (t : Text) : plainWeight (piecesFrom 0 (t ++ closing)).flatten ≤ weight t ∧
    (plainWeight (piecesFrom 0 (t ++ closing)).flatten = weight t → TakesTag t) := by
  induction hn : t.length using Nat.strongRecOn generalizing t with
  | ind n ih =>
    cases t with
    | nil =>
      refine ⟨by rw [List.nil_append, piecesFrom_closing]; exact Nat.le_refl _, fun _ => ⟨?_, by simp⟩⟩
      intro before tag after h
      simp at h
    | cons c t =>
      cases hfound : tagAt? (c :: t ++ closing) with
      | none =>
        obtain ⟨hle, htakes⟩ := ih t.length (by simp [← hn]) t rfl
        have hsum : plainWeight (piecesFrom 0 (c :: t ++ closing)).flatten =
            weight [c] + plainWeight (piecesFrom 0 (t ++ closing)).flatten := by
          rw [List.cons_append] at hfound ⊢
          rw [piecesFrom, hfound]
          dsimp only
          cases piecesFrom 0 (t ++ closing) with
          | nil => rfl
          | cons run runs => simp only [List.flatten_cons, plainWeight_append, plainWeight_consPlain, Nat.add_assoc]
        rw [hsum, weight_cons c t]
        exact ⟨Nat.add_le_add_left hle _, fun heq => (htakes (Nat.add_left_cancel heq)).cons hfound⟩
      | some found =>
        obtain ⟨k, tag⟩ := found
        -- a tag makes less plain text than it is made of, so there is no case of equality
        have hlt : plainWeight (piecesFrom 0 (c :: t ++ closing)).flatten < weight (c :: t) := by
          rcases tagAt?_closing_cases hfound with ⟨htag, after, hafter⟩ | ⟨hescapes, rfl⟩
          · obtain ⟨hle, -⟩ := ih after.length (by rw [← hn, hafter]; simp; omega) after rfl
            have hwhole : c :: t ++ closing = List.replicate k '\\' ++ '[' :: tag ++ ']' :: (after ++ closing) := by
              rw [hafter]
              simp
            have hweight : weight (c :: t) = 8 * k + 2 + weight tag + weight after := by
              rw [hafter, weight_append, weight_append, weight_replicate, weight_cons '[' tag, weight_cons ']' after]
              simp [weight]
              omega
            rw [hwhole, piecesFrom_tag htag, hweight]
            simp only [List.flatten_cons, List.nil_append, plainWeight_append]
            have hpieces := plainWeight_tagPieces_le k tag
            omega
          · have hsome : k ≠ 0 := by
              rintro rfl
              cases hescapes
            have hwhole : c :: t ++ closing = List.replicate k '\\' ++ '[' :: ('/' :: bold) ++ ']' :: [] := by
              rw [hescapes, List.append_assoc]
              rfl
            rw [hwhole, piecesFrom_tag isTag_unbold, hescapes, weight_replicate]
            change plainWeight (tagPieces k ('/' :: bold) ++ []) < _
            have hpieces := plainWeight_tagPieces_le k ('/' :: bold)
            have hclosing : weight ('/' :: bold) = 5 := by decide
            rw [List.append_nil]
            omega
        exact ⟨Nat.le_of_lt hlt, fun heq => absurd heq (Nat.ne_of_lt hlt)⟩

/-! ## What is shown -/

/-- A plain text without the backslashes before its brackets. -/
def unescaped (t : Text) : Text := Text.replaceAll ['\\', '['] ['['] t

/-- An escape costs its backslash. -/
theorem length_lt_escape_append (t : Text) : t.length < ((['\\', '['] : Text) ++ t).length := by
  rw [List.length_append]
  exact Nat.lt_add_of_pos_left (Nat.zero_lt_succ 1)

theorem weight_unescaped_le (t : Text) :
    weight (unescaped t) ≤ weight t ∧ (weight (unescaped t) = weight t → ¬ (['\\', '['] : Text) <:+: t) := by
  -- An escape takes two characters at once, so the induction is on the length.
  induction hn : t.length using Nat.strongRecOn generalizing t with
  | ind n ih =>
    by_cases hescape : (['\\', '['] : Text) <+: t
    · obtain ⟨t, rfl⟩ := hescape
      obtain ⟨hle, -⟩ := ih t.length (hn ▸ length_lt_escape_append t) t rfl
      have hlt : weight (unescaped (['\\', '['] ++ t)) < weight (['\\', '['] ++ t) := by
        rw [unescaped, Text.replaceAll_append_self (by simp), weight_append, weight_append]
        exact Nat.add_lt_add_of_lt_of_le (by decide) hle
      exact ⟨Nat.le_of_lt hlt, fun heq => absurd heq (Nat.ne_of_lt hlt)⟩
    · cases t with
      | nil => exact ⟨Nat.le_refl _, fun _ => by simp⟩
      | cons c t =>
        obtain ⟨hle, hnone⟩ := ih t.length (by simp [← hn]) t rfl
        rw [unescaped, Text.replaceAll_cons hescape, weight_cons, weight_cons c t]
        refine ⟨Nat.add_le_add_left hle _, fun heq => ?_⟩
        rw [List.infix_cons_iff, not_or]
        exact ⟨hescape, hnone (Nat.add_left_cancel heq)⟩

theorem unescaped_of_no_escape {t : Text} (h : ¬ (['\\', '['] : Text) <:+: t) : unescaped t = t := by
  induction t with
  | nil => rfl
  | cons c t ih =>
    rw [List.infix_cons_iff, not_or] at h
    rw [unescaped, Text.replaceAll_cons h.1]
    exact congrArg (c :: ·) (ih h.2)

theorem mem_of_mem_unescaped {t : Text} {c : Char} (h : c ∈ unescaped t) : c ∈ t := by
  induction hn : t.length using Nat.strongRecOn generalizing t with
  | ind n ih =>
    by_cases hescape : (['\\', '['] : Text) <+: t
    · obtain ⟨t, rfl⟩ := hescape
      rw [unescaped, Text.replaceAll_append_self (by simp), List.mem_append] at h
      rcases h with hbracket | hlater
      · simp [List.mem_singleton.mp hbracket]
      · exact List.mem_append_right _ (ih t.length (hn ▸ length_lt_escape_append t) hlater rfl)
    · cases t with
      | nil => exact h
      | cons b t =>
        rw [unescaped, Text.replaceAll_cons hescape, List.mem_cons] at h
        exact List.mem_cons.mpr (h.imp_right fun hlater => ih t.length (by simp [← hn]) hlater rfl)

/-- What is shown of a piece. -/
def Piece.shown : Piece → Text
  | .plain t => replaceEmoji (unescaped t)
  | .tag _ => []

theorem shownText_eq_ok {opened : List OpenTag} {ps : List Piece} {shown : Text} (h : shownText opened ps = .ok shown) :
    shown = ps.flatMap Piece.shown := by
  induction ps generalizing opened shown with
  | nil => exact (Except.ok.inj h).symm
  | cons p ps ih =>
    cases p with
    | plain t =>
      rw [shownText] at h
      cases hlater : shownText opened ps with
      | error e =>
        rw [hlater] at h
        cases h
      | ok later =>
        rw [hlater] at h
        obtain rfl := Except.ok.inj h
        rw [List.flatMap_cons, ← ih hlater]
        rfl
    | tag tag =>
      rw [shownText] at h
      split at h
      · cases h
      · exact ih h

theorem mem_of_plain_mem_consPlain {a c : Char} {u t : Text} {run : List Piece} (h : .plain u ∈ consPlain a run) (hc : c ∈ u)
    (hrun : ∀ v, .plain v ∈ run → c ∈ v → c ∈ t) : c ∈ a :: t := by
  have hlater {v : Text} (hv : .plain v ∈ run) (hcv : c ∈ v) : c ∈ a :: t := List.mem_cons_of_mem a (hrun v hv hcv)
  have hself (h : .plain u = Piece.plain [a]) : c ∈ a :: t := by
    obtain rfl := Piece.plain.inj h
    exact List.mem_singleton.mp hc ▸ List.mem_cons_self
  cases run with
  | nil => exact hself (List.mem_singleton.mp h)
  | cons p run =>
    cases p with
    | plain v =>
      rcases List.mem_cons.mp h with hfirst | hrest
      · obtain rfl := Piece.plain.inj hfirst
        rcases List.mem_cons.mp hc with rfl | hcv
        · exact List.mem_cons_self
        · exact hlater List.mem_cons_self hcv
      · exact hlater (List.mem_cons_of_mem _ hrest) hc
    | tag tag =>
      rcases List.mem_cons.mp h with hfirst | hrest
      · exact hself hfirst
      · exact hlater hrest hc

theorem mem_of_plain_mem_tagPieces {n : ℕ} {tag u : Text} {c : Char} (h : .plain u ∈ tagPieces n tag) (hc : c ∈ u) :
    c ∈ List.replicate n '\\' ++ '[' :: tag ++ [']'] := by
  rcases List.mem_append.mp h with hescapes | htag
  · split at hescapes
    · cases hescapes
    · rename_i hn
      obtain rfl := Piece.plain.inj (List.mem_singleton.mp hescapes)
      have hslash : c = '\\' := List.eq_of_mem_replicate hc
      simp only [List.mem_append, List.mem_replicate]
      exact .inl (.inl ⟨by omega, hslash⟩)
  · split at htag
    · obtain rfl := Piece.plain.inj (List.mem_singleton.mp htag)
      rw [List.append_assoc]
      exact List.mem_append_right _ hc
    · cases List.mem_singleton.mp htag

/-- Plain text is taken from the text. -/
theorem mem_of_plain_mem_pieces {t u : Text} {c : Char} (h : .plain u ∈ (piecesFrom 0 t).flatten) (hc : c ∈ u) : c ∈ t := by
  induction hn : t.length using Nat.strongRecOn generalizing t u with
  | ind n ih =>
    cases t with
    | nil => simp [piecesFrom] at h
    | cons a t =>
      have hlater (v : Text) (hv : .plain v ∈ (piecesFrom 0 t).flatten) (hcv : c ∈ v) : c ∈ t :=
        ih t.length (by simp [← hn]) hv hcv rfl
      cases hfound : tagAt? (a :: t) with
      | none =>
        -- No tag begins here, so the character joins the run after it; only its own text can be longer than what came later.
        rw [piecesFrom, hfound] at h
        dsimp only at h
        cases hruns : piecesFrom 0 t with
        | nil =>
          rw [hruns] at h
          obtain rfl : u = [a] := by simpa using h
          exact List.mem_singleton.mp hc ▸ List.mem_cons_self
        | cons run runs =>
          rw [hruns] at h hlater
          rw [List.flatten_cons] at h hlater
          rcases List.mem_append.mp h with hfirst | hrest
          · exact mem_of_plain_mem_consPlain hfirst hc fun v hv => hlater v (List.mem_append_left _ hv)
          · exact List.mem_cons_of_mem a (hlater u (List.mem_append_right _ hrest) hc)
      | some found =>
        obtain ⟨k, tag⟩ := found
        obtain ⟨htag, after, hafter⟩ := tagAt?_eq_some_iff.mp hfound
        rw [hafter, List.append_cons _ ']', List.mem_append]
        rw [hafter, piecesFrom_tag htag, List.flatten_cons, List.flatten_cons, List.nil_append, List.mem_append] at h
        refine h.imp (fun hpieces => mem_of_plain_mem_tagPieces hpieces hc) fun hrest => ?_
        exact ih after.length (by rw [← hn, hafter]; simp; omega) hrest hc rfl

/-! ## Titles -/

/-- The runs of a label, which holds nothing that a tag may begin with. -/
theorem piecesFrom_label {t rest : Text} {runs : List (List Piece)} (hrest : piecesFrom 0 rest = [] :: runs)
    (h : '[' ∉ t ∧ '\\' ∉ t) : piecesFrom 0 (t ++ rest) = plainRun t :: runs := by
  refine piecesFrom_append hrest fun s hs hsuffix => ?_
  obtain ⟨c, s, rfl⟩ := List.exists_cons_of_ne_nil hs
  have hc : c ∈ t := hsuffix.subset List.mem_cons_self
  exact tagAt?_cons_eq_none (fun hbracket => h.1 (hbracket ▸ hc)) fun hescape => h.2 (hescape ▸ hc)

/-- What stands before a name. -/
def label : Text := "command: "

/-- A name in its style, after the label. -/
def title (name : Text) : Text := "command: [bold]" ++ name ++ "[/bold]"

theorem title_eq (name : Text) : title name = label ++ ('[' :: bold ++ ']' :: (name ++ closing)) := by
  have hopening : "command: [bold]".toList = label ++ ('[' :: bold ++ [']']) := rfl
  have hclosing : "[/bold]".toList = closing := rfl
  calc title name = "command: [bold]".toList ++ name ++ "[/bold]".toList := rfl
    _ = label ++ ('[' :: bold ++ [']']) ++ name ++ closing :=
      congrArg₂ (fun opening ending => opening ++ name ++ ending) hopening hclosing
    _ = label ++ ('[' :: bold ++ ']' :: (name ++ closing)) := by
      simp only [List.append_assoc, List.cons_append, List.nil_append]

theorem pieces_title (name : Text) :
    pieces (title name) = .plain label :: .tag bold :: (piecesFrom 0 (name ++ closing)).flatten := by
  have hruns := piecesFrom_label (t := label) (piecesFrom_tag isTag_bold 0 (name ++ closing)) (by decide)
  rw [pieces, title_eq]
  exact congrArg List.flatten hruns

/-- The style of a name is opened before it. -/
def opened : List OpenTag := [⟨bold, none⟩]

theorem applyTag_bold : applyTag bold [] = .ok opened := by decide +kernel

theorem applyTag_unbold : applyTag ('/' :: bold) opened = .ok [] := by decide +kernel

theorem shown_label : replaceEmoji (Text.replaceAll ['\\', '['] ['['] label) = label := by decide

theorem shownText_title (name : Text) : shownText [] (pieces (title name)) =
    (shownText opened (piecesFrom 0 (name ++ closing)).flatten).map (label ++ ·) := by
  rw [pieces_title, shownText, shownText, applyTag_bold, shown_label]

theorem TakesTag.piecesFrom_append {name : Text} (h : TakesTag name) :
    piecesFrom 0 (name ++ closing) = [plainRun name, [.tag ('/' :: bold)], []] := by
  refine Terminal.piecesFrom_append piecesFrom_closing fun s hs ⟨lead, hlead⟩ => ?_
  rw [Option.eq_none_iff_forall_not_mem]
  rintro ⟨n, tag⟩ hfound
  rcases tagAt?_closing_cases hfound with ⟨htag, after, rfl⟩ | ⟨rfl, -⟩
  · exact h.no_tag (lead ++ List.replicate n '\\') tag after (by rw [← hlead]; simp) htag
  · obtain ⟨k, rfl⟩ := Nat.exists_eq_succ_of_ne_zero fun hzero : n = 0 => hs (by rw [hzero]; rfl)
    refine h.no_end ⟨lead ++ List.replicate k '\\', ?_⟩
    rw [← hlead, List.replicate_succ', List.append_assoc]

theorem TakesTag.pieces_title {name : Text} (h : TakesTag name) :
    pieces (title name) = .plain label :: .tag bold :: (plainRun name ++ [.tag ('/' :: bold)]) := by
  rw [Terminal.pieces_title, h.piecesFrom_append]
  rfl

theorem shownText_plainRun (t : Text) (ps : List Piece) (tags : List OpenTag) :
    shownText tags (plainRun t ++ ps) = (shownText tags ps).map (replaceEmoji (unescaped t) ++ ·) := by
  cases t with
  | nil =>
    change shownText tags ps = _
    cases shownText tags ps <;> rfl
  | cons c t => rfl

theorem TakesTag.shownText_title {name : Text} (h : TakesTag name) :
    shownText [] (pieces (title name)) = .ok (label ++ replaceEmoji (unescaped name)) := by
  have hclosed : shownText opened [.tag ('/' :: bold)] = .ok [] := by
    rw [shownText, applyTag_unbold]
    rfl
  have hruns : [plainRun name, [.tag ('/' :: bold)], []].flatten = plainRun name ++ [.tag ('/' :: bold)] := rfl
  rw [Terminal.shownText_title, h.piecesFrom_append, hruns, shownText_plainRun, hclosed]
  simp only [Except.map, List.append_nil]

theorem TakesTag.checkStyle_title {name : Text} (h : TakesTag name) : (pieces (title name)).forM checkStyle = .ok () := by
  have hbold : checkStyle (.tag bold) = .ok () := by decide +kernel
  have hname : (plainRun name ++ [Piece.tag ('/' :: bold)]).forM checkStyle = .ok () := by cases name <;> rfl
  rw [h.pieces_title]
  change (checkStyle (.tag bold) >>= fun _ => (plainRun name ++ [Piece.tag ('/' :: bold)]).forM checkStyle) = _
  rw [hbold]
  exact hname

theorem replaceEmoji_label (t : Text) : replaceEmoji (label ++ t) = label ++ replaceEmoji t := by
  have hword : ':' ∉ ['c', 'o', 'm', 'm', 'a', 'n', 'd'] := by decide
  have hgap : ':' ∉ [' '] := by decide
  have hcolon : replaceEmoji ([':', ' '] ++ t) = [':', ' '] ++ replaceEmoji t := by
    have hblank : replaceEmoji (' ' :: t) = ' ' :: replaceEmoji t := replaceEmoji_append_of_not_mem hgap t
    have hfirst := replaceEmoji_colon_blank (c := ' ') (by decide) t
    rw [hblank] at hfirst
    exact hfirst
  have hlabel : label = ['c', 'o', 'm', 'm', 'a', 'n', 'd'] ++ [':', ' '] := rfl
  rw [hlabel, List.append_assoc, replaceEmoji_append_of_not_mem hword, hcolon, List.append_assoc]

/-! ## Titles printed -/

theorem printMarkup_of_shown {t shown : Text} (hshown : shownText [] (pieces t) = .ok shown)
    (hstyles : (pieces t).forM checkStyle = .ok ()) : printMarkup t = .ok (layOut shown ++ ['\n']) := by
  rw [printMarkup, hshown]
  change ((pieces t).forM checkStyle >>= fun _ => Except.ok (layOut shown ++ ['\n'])) = _
  rw [hstyles]
  rfl

theorem printMarkup_eq_ok {t output : Text} (h : printMarkup t = .ok output) :
    ∃ shown, shownText [] (pieces t) = .ok shown ∧ output = layOut shown ++ ['\n'] := by
  rw [printMarkup] at h
  cases hshown : shownText [] (pieces t) with
  | error e =>
    rw [hshown] at h
    cases h
  | ok shown =>
    rw [hshown] at h
    refine ⟨shown, rfl, ?_⟩
    change ((pieces t).forM checkStyle >>= fun _ => Except.ok (layOut shown ++ ['\n'])) = _ at h
    cases hstyles : (pieces t).forM checkStyle with
    | error e =>
      rw [hstyles] at h
      cases h
    | ok _ =>
      rw [hstyles] at h
      exact (Except.ok.inj h).symm

/-- A name without markup is shown as it is printed without markup. -/
theorem printMarkup_title_of_unmarked {name : Text} (h : Unmarked name) :
    printMarkup (title name) = .ok (print (label ++ name)) := by
  have hshown := h.toTakesTag.shownText_title
  rw [unescaped_of_no_escape h.no_escape, ← replaceEmoji_label] at hshown
  rw [print]
  exact printMarkup_of_shown hshown h.toTakesTag.checkStyle_title

theorem mem_of_mem_flatMap_shown {t : Text} (hcolon : ':' ∉ t) {c : Char}
    (h : c ∈ (piecesFrom 0 t).flatten.flatMap Piece.shown) : c ∈ t := by
  obtain ⟨p, hp, hc⟩ := List.mem_flatMap.mp h
  cases p with
  | tag tag => cases hc
  | plain u =>
    have hu : ':' ∉ unescaped u := fun hmem => hcolon (mem_of_plain_mem_pieces hp (mem_of_mem_unescaped hmem))
    rw [Piece.shown, replaceEmoji_of_namesNoEmoji (namesNoEmoji_of_not_mem hu)] at hc
    exact mem_of_plain_mem_pieces hp (mem_of_mem_unescaped hc)

/-- What is shown of pieces without colons is no more than their plain text. -/
theorem weight_flatMap_shown_le {ps : List Piece} (h : ∀ u, .plain u ∈ ps → ':' ∉ u) :
    weight (ps.flatMap Piece.shown) ≤ plainWeight ps := by
  induction ps with
  | nil => exact Nat.le_refl _
  | cons p ps ih =>
    have hlater := ih fun u hu => h u (List.mem_cons_of_mem p hu)
    rw [List.flatMap_cons, weight_append]
    cases p with
    | tag tag =>
      rw [plainWeight_tag_cons, Piece.shown]
      exact (Nat.zero_add _).symm ▸ hlater
    | plain u =>
      have hu : ':' ∉ unescaped u := fun hmem => h u List.mem_cons_self (mem_of_mem_unescaped hmem)
      rw [plainWeight_plain_cons, Piece.shown, replaceEmoji_of_namesNoEmoji (namesNoEmoji_of_not_mem hu)]
      exact Nat.add_le_add (weight_unescaped_le u).1 hlater

theorem isSteady_label : IsSteady label := by decide

theorem isSteady_closing : IsSteady closing := by decide

/-- A name that is shown as it is holds no markup. -/
theorem unmarked_of_printMarkup_title {name : Text} (hsteady : IsSteady name) (hcolon : ':' ∉ name)
    (h : printMarkup (title name) = .ok (label ++ name ++ ['\n'])) : Unmarked name := by
  obtain ⟨shown, hshown, houtput⟩ := printMarkup_eq_ok h
  let ps := (piecesFrom 0 (name ++ closing)).flatten
  have hpieces : shown = label ++ ps.flatMap Piece.shown := by
    rw [shownText_title] at hshown
    cases hname : shownText opened ps with
    | error e =>
      rw [hname] at hshown
      cases hshown
    | ok found =>
      rw [hname] at hshown
      rw [← shownText_eq_ok hname]
      exact (Except.ok.inj hshown).symm
  have hclosing : ':' ∉ name ++ closing := by
    rw [List.mem_append, not_or]
    exact ⟨hcolon, by decide⟩
  have hlaid : layOut shown = shown := by
    refine layOut_of_isSteady (hpieces ▸ isSteady_label.append fun c hc => ?_)
    exact hsteady.append isSteady_closing c (mem_of_mem_flatMap_shown hclosing hc)
  have hname : ps.flatMap Piece.shown = name := by
    rw [hlaid, hpieces] at houtput
    exact (List.append_cancel_left (List.append_cancel_right houtput)).symm
  obtain ⟨hle, htakes⟩ := plainWeight_closing_le name
  have hshownle : weight name ≤ plainWeight ps := by
    rw [← hname]
    exact weight_flatMap_shown_le fun u hu hmem => hclosing (mem_of_plain_mem_pieces hu hmem)
  have htag := htakes (Nat.le_antisymm hle hshownle)
  have hunescaped : unescaped name = name := by
    have hcolon' : ':' ∉ unescaped name := fun hmem => hcolon (mem_of_mem_unescaped hmem)
    rw [htag.shownText_title, hpieces, hname, replaceEmoji_of_namesNoEmoji (namesNoEmoji_of_not_mem hcolon')] at hshown
    exact List.append_cancel_left (Except.ok.inj hshown)
  exact ⟨htag, (weight_unescaped_le name).2 (by rw [hunescaped])⟩

end ChatBot.Terminal
