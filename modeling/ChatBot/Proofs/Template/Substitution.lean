import ChatBot.Proofs.Assoc
import ChatBot.Proofs.Template.Grammar

/-!
Applying a template to an environment whose values are computed when they are needed. The keys of the body are resolved one after
the other, each once, in order of first appearance; where no value can be read as part of a placeholder, the passes over the body
come to the same as filling in all placeholders at once. Which binding was made first does not matter.
-/
set_option autoImplicit false

namespace ChatBot.Template

/-! ## The order of the bindings -/

section
variable {m : Type → Type} [Monad m]

/-- Only what the keys are bound to matters. -/
theorem Environment.fill_congr {env other : Environment m} {ks : List Text} (h : ∀ key ∈ ks, other.find? key = env.find? key)
    (body : Text) : other.fill ks body = env.fill ks body := by
  induction ks generalizing body with
  | nil => rfl
  | cons key ks ih =>
    have hkey : other.resolve? key = env.resolve? key := by
      rw [resolve?, resolve?, h key List.mem_cons_self]
    have hrest : ∀ body, other.fill ks body = env.fill ks body := ih fun key hmem => h key (List.mem_cons_of_mem _ hmem)
    rw [fill, fill, hkey]
    simp only [hrest]

theorem apply_eq_of_perm {env other : Environment m} (hnodup : env.keys.Nodup) (hperm : other.Perm env) (template : Template) :
    template.apply other = template.apply env := by
  have hfind (key : Text) : other.find? key = env.find? key := Assoc.find?_of_perm hnodup hperm key
  rw [apply, apply]
  congr 1
  funext ks
  exact Environment.fill_congr (fun key _ => hfind key) _

end

/-! ## Resolving keys in turn -/

variable {σ ε : Type} {env : Environment (StateT σ (Except ε))} {ks : List Text} {s s' : σ} {found : Assoc Text Text}

/-- Resolving the keys in turn finds these texts for those that are bound, and takes the state from the first to the last. -/
inductive Environment.Resolves (env : Environment (StateT σ (Except ε))) : List Text → σ → Assoc Text Text → σ → Prop
  | nil (s : σ) : Resolves env [] s [] s
  | unbound {key : Text} {ks : List Text} {s s' : σ} {found : Assoc Text Text} (hkey : env.find? key = none)
      (hrest : Resolves env ks s found s') : Resolves env (key :: ks) s found s'
  | bound {key : Text} {ks : List Text} {bound : Resolvable (StateT σ (Except ε))} {value : Scalar} {s next s' : σ}
      {found : Assoc Text Text} (hkey : env.find? key = some bound) (hvalue : bound.value.run s = .ok (value, next))
      (hrest : Resolves env ks next found s') : Resolves env (key :: ks) s ((key, value.toText) :: found) s'

namespace Environment.Resolves

/-- Filling in is resolving first and then replacing what was found. -/
theorem run_fill (h : env.Resolves ks s found s') (body : Text) :
    (env.fill ks body).run s = .ok (replacePasses found body, s') := by
  induction h generalizing body with
  | nil s => rfl
  | unbound hkey hrest ih =>
    rw [fill, resolve?, hkey]
    exact ih body
  | bound hkey hvalue hrest ih =>
    rw [fill, resolve?, hkey]
    simp only [StateT.run_bind, hvalue]
    exact ih _

theorem mem_of_mem_found (h : env.Resolves ks s found s') {pass : Text × Text} (hpass : pass ∈ found) : pass.1 ∈ ks := by
  induction h with
  | nil s => cases hpass
  | unbound hkey hrest ih => exact List.mem_cons_of_mem _ (ih hpass)
  | bound hkey hvalue hrest ih =>
    rcases List.mem_cons.mp hpass with rfl | hpass
    · exact List.mem_cons_self
    · exact List.mem_cons_of_mem _ (ih hpass)

/-- A text is found for exactly those keys that are bound. -/
theorem isSome_find? (h : env.Resolves ks s found s') {key : Text} (hmem : key ∈ ks) :
    (found.find? key).isSome = (env.find? key).isSome := by
  induction h with
  | nil s => cases hmem
  | unbound hkey hrest ih =>
    rename_i other ks s s' found
    by_cases hks : key ∈ ks
    · exact ih hks
    · obtain rfl := (List.mem_cons.mp hmem).resolve_right hks
      have hnone : found.find? key = none := Assoc.find?_eq_none_of_not_mem_keys fun hkeys => by
        obtain ⟨pass, hpass, rfl⟩ := List.mem_map.mp hkeys
        exact hks (hrest.mem_of_mem_found hpass)
      rw [hnone, hkey]
      rfl
  | bound hkey hvalue hrest ih =>
    rw [Assoc.find?]
    split
    · rename_i heq
      subst heq
      rw [hkey]
      rfl
    · rename_i hne
      exact ih ((List.mem_cons.mp hmem).resolve_left (Ne.symm hne))

end Environment.Resolves

/-- Whatever the state, every computed value of the environment is there. -/
def Environment.Answers (env : Environment (StateT σ (Except ε))) : Prop :=
  ∀ key value, env.find? key = some (.computed value) → ∀ s, ∃ found s', value.run s = .ok (found, s')

/-- Where every computed value is there, keys can be resolved from any state. -/
theorem Environment.Answers.exists_resolves (h : env.Answers) (ks : List Text) (s : σ) :
    ∃ found s', env.Resolves ks s found s' := by
  induction ks generalizing s with
  | nil => exact ⟨[], s, .nil s⟩
  | cons key ks ih =>
    cases hkey : env.find? key with
    | none =>
      obtain ⟨found, s', hrest⟩ := ih s
      exact ⟨found, s', .unbound hkey hrest⟩
    | some bound =>
      have hvalue : ∃ value next, bound.value.run s = .ok (value, next) := by
        cases bound with
        | known value => exact ⟨value, s, rfl⟩
        | computed value => exact h key value hkey s
      obtain ⟨value, next, hvalue⟩ := hvalue
      obtain ⟨found, s', hrest⟩ := ih next
      exact ⟨(key, value.toText) :: found, s', .bound hkey hvalue hrest⟩

/-! ## Which values are computed -/

/-- The same value; computing it puts the key on record. -/
def Resolvable.recordedAs (key : Text) :
    Resolvable (StateT σ (Except ε)) → Resolvable (StateT (σ × List Text) (Except ε))
  | known value => known value
  | computed value =>
    computed fun (s, calls) => (value.run s).map fun (result, s') => (result, s', calls ++ [key])

/-- The same environment; whatever is computed is put on record, behind what stands there. -/
def Environment.recorded (env : Environment (StateT σ (Except ε))) : Environment (StateT (σ × List Text) (Except ε)) :=
  env.map fun b => (b.1, b.2.recordedAs b.1)

def Environment.computes (env : Environment (StateT σ (Except ε))) (key : Text) : Bool :=
  match env.find? key with
  | some (.computed _) => true
  | _ => false

/-- Resolving keys in turn computes the values of those keys that have one to compute, each once, in this order, and no other. -/
theorem Environment.Resolves.recorded (h : env.Resolves ks s found s') (calls : List Text) :
    env.recorded.Resolves ks (s, calls) found (s', calls ++ ks.filter env.computes) := by
  have hfind (key : Text) : env.recorded.find? key = (env.find? key).map (Resolvable.recordedAs key) :=
    Assoc.find?_map_keyed Resolvable.recordedAs env key
  induction h generalizing calls with
  | nil s =>
    rw [List.filter_nil, List.append_nil]
    exact .nil _
  | unbound hkey hrest ih =>
    rw [List.filter_cons_of_neg (by simp [computes, hkey])]
    exact .unbound (by rw [hfind, hkey]; rfl) (ih calls)
  | bound hkey hvalue hrest ih =>
    rename_i key ks bound value s next s' found
    cases bound with
    | known v =>
      obtain ⟨rfl, rfl⟩ := Prod.mk.inj (Except.ok.inj hvalue)
      rw [List.filter_cons_of_neg (by simp [computes, hkey])]
      exact .bound (by rw [hfind, hkey]; rfl) rfl (ih calls)
    | computed p =>
      rw [List.filter_cons_of_pos (by simp [computes, hkey]), List.append_cons]
      have hrun : p.run s = .ok (value, next) := hvalue
      have hcall : ((Resolvable.computed p).recordedAs key).value.run (s, calls) = .ok (value, next, calls ++ [key]) := by
        change (p.run s).map _ = _
        rw [hrun]
        rfl
      exact .bound (by rw [hfind, hkey]; rfl) hcall (ih (calls ++ [key]))

/-! ## All placeholders at once -/

/-- Where all values are inert, the passes fill in all placeholders at once. -/
theorem Environment.Resolves.replacePasses_written {l : Layout} (hl : l.Sound)
    (h : env.Resolves l.keys.eraseDups s found s') (hinert : ∀ pass ∈ found, Inert pass.2) :
    replacePasses found l.written = l.filled found.find? := by
  have hkeys : ∀ pass ∈ found, '\x7d' ∉ pass.1 := fun pass hpass =>
    (hl.isKey (List.mem_eraseDups.mp (h.mem_of_mem_found hpass))).not_close
  exact hl.foldl_replaceAll hkeys fun pass hpass => hinert pass (List.dropLast_subset _ hpass)

/-- A well-formed body can be taken apart in exactly one way. When the keys that are bound stand for inert texts, applying the
template gives that layout with the placeholders of these keys filled in at once and all others left as they are. The values to
compute are computed once each, in the order in which their keys first appear, and no others are; the order in which the bindings
were made does not matter. -/
theorem apply_fills_at_once {template : Template} (hkeys : keys template.body = .ok ks)
    (hfound : env.Resolves ks.eraseDups s found s') (hinert : ∀ pass ∈ found, Inert pass.2) :
    ∃ l : Layout, (l.Sound ∧ l.written = template.body ∧ l.keys = ks) ∧
      (∀ other : Layout, other.Sound → other.written = template.body → other = l) ∧
      (∀ key ∈ ks, (found.find? key).isSome = (env.find? key).isSome) ∧
      (template.apply env).map (·.run s) = .ok (.ok (l.filled found.find?, s')) ∧
      (∀ calls, (template.apply env.recorded).map (·.run (s, calls)) =
        .ok (.ok (l.filled found.find?, s', calls ++ ks.eraseDups.filter env.computes))) ∧
      (env.keys.Nodup → ∀ other : Environment (StateT σ (Except ε)), other.Perm env →
        template.apply other = template.apply env) := by
  obtain ⟨l, ⟨hl, hwritten, rfl⟩, hunique⟩ := existsUnique_layout hkeys
  have hpasses : replacePasses found template.body = l.filled found.find? :=
    hwritten ▸ hfound.replacePasses_written hl hinert
  refine ⟨l, ⟨hl, hwritten, rfl⟩, hunique, fun key hkey => ?_, ?_, fun calls => ?_, fun hnodup other hperm => ?_⟩
  · exact hfound.isSome_find? (List.mem_eraseDups.mpr hkey)
  · rw [apply, hkeys, ← hpasses]
    exact congrArg Except.ok (hfound.run_fill template.body)
  · rw [apply, hkeys, ← hpasses]
    exact congrArg Except.ok ((hfound.recorded calls).run_fill template.body)
  · exact apply_eq_of_perm hnodup hperm template

/-- Dollars and braces stand on both sides of the placeholders, one key stands twice in the body, and one of the computed values is
not asked for. -/
theorem apply_fills_at_once_of_counters :
    let template : Template := ⟨"hi", "$$\x7ba\x7d \x7b$\x7bb\x7d\x7d$\x7ba\x7d $\x7bc\x7d"⟩
    let ks : List Text := ["a", "b", "a", "c"]
    let env : Environment (StateT ℕ (Except Unit)) :=
      [("d", .computed fun n => .ok (.text "d", n + 100)), ("b", .computed fun n => .ok (.text "$\x7d", n + 10)),
        ("a", .computed fun n => .ok (.text "$1", n + 1))]
    let found : Assoc Text Text := [("a", "$1"), ("b", "$\x7d")]
    let text : Text := "$$1 \x7b$\x7d\x7d$1 $\x7bc\x7d"
    keys template.body = .ok ks ∧ env.Resolves ks.eraseDups 0 found 11 ∧ (∀ pass ∈ found, Inert pass.2) ∧
      env.keys.Nodup ∧ (template.apply env).map (·.run 0) = .ok (.ok (text, 11)) ∧
      (template.apply env.recorded).map (·.run (0, [])) = .ok (.ok (text, 11, [("a" : Text), "b"])) ∧
      template.apply env.reverse = template.apply env := by
  intro template ks env found text
  have hkeys : keys template.body = .ok ks := by rfl
  have hb : env.Resolves ["b", "c"] 1 [("b", "$\x7d")] 11 :=
    @Environment.Resolves.bound _ _ env "b" ["c"] _ (.text "$\x7d") 1 11 11 [] rfl rfl (.unbound rfl (.nil 11))
  have hfound : env.Resolves ks.eraseDups 0 found 11 :=
    @Environment.Resolves.bound _ _ env "a" ["b", "c"] _ (.text "$1") 0 1 11 _ rfl rfl hb
  have hinert : ∀ pass ∈ found, Inert pass.2 := by decide
  have hnodup : env.keys.Nodup := by decide
  obtain ⟨l, -, hunique, -, happlied, hrecorded, horder⟩ := apply_fills_at_once hkeys hfound hinert
  have hlayout : l = .piece "$" "a" (.piece " \x7b" "b" (.piece "\x7d" "a" (.piece " " "c" (.last "")))) :=
    (hunique _ (by decide) (by decide)).symm
  subst hlayout
  exact ⟨hkeys, hfound, hinert, hnodup, happlied, hrecorded [], horder hnodup _ env.reverse_perm⟩

end ChatBot.Template
