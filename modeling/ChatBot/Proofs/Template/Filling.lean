import ChatBot.Proofs.Text.Pieces
import ChatBot.Proofs.Text.Trim
import ChatBot.Template.Environment

/-!
How a filled template begins. A placeholder begins with a character that is not blank, so filling it in changes the first such
character of a body only where the placeholder itself comes first, and then to that of its value.
-/
set_option autoImplicit false

namespace ChatBot.Template

theorem compile_eq_ok {name body : Text} {template : Template} (h : compile name body = .ok template) :
    template = ⟨name, body⟩ := by
  rw [compile] at h
  cases hkeys : keys body with
  | error error =>
    rw [hkeys] at h
    cases h
  | ok ks =>
    rw [hkeys] at h
    exact (Except.ok.inj h).symm

theorem compile_of_keys {body : Text} {ks : List Text} (h : keys body = .ok ks) (name : Text) :
    compile name body = .ok ⟨name, body⟩ := by
  rw [compile, h]
  rfl

theorem front?_replaceAll (key : Text) {value : Text} (hvalue : (Text.front? value).isSome = true) (body : Text) :
    Text.front? (Text.replaceAll (placeholder key) value body) = Text.front? body ∨
      Text.front? body = some '$' ∧
        Text.front? (Text.replaceAll (placeholder key) value body) = Text.front? value := by
  rw [Text.replaceAll]
  induction body with
  | nil => exact .inl rfl
  | cons c t ih =>
    -- Behind blanks the induction goes on; a placeholder here gives way to its value, any other character stays in front.
    by_cases hstarts : Text.startsWith (placeholder key) (c :: t) = true
    · have hc : '$' = c := (List.cons_prefix_cons.mp (Text.startsWith_iff.mp hstarts)).1
      subst hc
      refine .inr ⟨Text.front?_cons_of_not_blank t rfl, ?_⟩
      rw [Text.replaceFrom, if_pos hstarts]
      exact Text.front?_append_of_isSome _ hvalue
    · rw [Text.replaceFrom, if_neg hstarts]
      cases hc : Text.isBlank c with
      | true => rwa [Text.front?_cons_of_blank _ hc, Text.front?_cons_of_blank t hc]
      | false => exact .inl (by rw [Text.front?_cons_of_not_blank _ hc, Text.front?_cons_of_not_blank t hc])

theorem Environment.fill_cons_of_none {env : Environment Id} {key : Text} (h : env.resolve? key = none) (keys : List Text)
    (body : Text) : env.fill (key :: keys) body = env.fill keys body := by
  rw [fill]
  simp only [h]
  rfl

theorem Environment.fill_cons_of_some {env : Environment Id} {key value : Text} (h : env.resolve? key = some value)
    (keys : List Text) (body : Text) :
    env.fill (key :: keys) body = env.fill keys (Text.replaceAll (placeholder key) value body) := by
  rw [fill]
  simp only [h]
  rfl

/-- Values that do not begin with some marks neither bring them to the front of a body nor take them from there. -/
theorem any_front?_fill {env : Environment Id} {isMark : Char → Bool} (hplaceholder : isMark '$' = false)
    (hvalues : ∀ key value, env.resolve? key = some value → ∃ c, Text.front? value = some c ∧ isMark c = false)
    (keys : List Text) (body : Text) :
    (Text.front? (env.fill keys body)).any isMark = (Text.front? body).any isMark := by
  induction keys generalizing body with
  | nil => rfl
  | cons key keys ih =>
    cases hvalue : env.resolve? key with
    | none => rw [Environment.fill_cons_of_none hvalue, ih]
    | some value =>
      obtain ⟨c, hfront, hc⟩ := hvalues key value hvalue
      rw [Environment.fill_cons_of_some hvalue, ih]
      rcases front?_replaceAll key (by rw [hfront]; rfl) body with hsame | ⟨hbody, hfilled⟩
      · rw [hsame]
      · rw [hfilled, hbody, hfront, Option.any_some, Option.any_some, hc, hplaceholder]

end ChatBot.Template
