import Mathlib.Logic.Function.Basic
import ChatBot.Message
import ChatBot.Note

/-!
Strands are tasks and threads, and in each of them a channel is bound. A strand starts with what is bound in the one that starts it. One
that begins to handle a message binds the message's channel; when the message is handled nothing is bound anew. A record is made under
what is bound in the strand that makes it.
-/
set_option autoImplicit false

namespace ChatBot

/-- What is bound in a strand, the message that it handled or worked for last, and whether it still does. -/
structure Strand where
  bound : Text
  latest : Option Message
  busy : Bool

namespace Strand

/-- A strand that handles no message, after the last that it handled. -/
def resting (latest : Option Message) : Strand := ⟨(latest.map Message.channel).getD noChannel, latest, false⟩

/-- A strand that handles a message, or works for one that does. -/
def working (m : Message) : Strand := ⟨m.channel, some m, true⟩

/-- The message that a strand handles or works for now. -/
def message? (s : Strand) : Option Message := if s.busy then s.latest else none

/-- The channel of the latest message is bound. -/
def Follows (s : Strand) : Prop := s.bound = (s.latest.map Message.channel).getD noChannel

theorem Follows.bound_of_message? {s : Strand} (h : s.Follows) {m : Message} (hm : s.message? = some m) :
    s.bound = m.channel := by
  rw [message?] at hm
  split at hm
  · rw [h, hm]
    rfl
  · cases hm

/-- What happens in the strands under the names `ι`. -/
inductive Act (ι : Type) where
  | start (parent child : ι)
  | handle (i : ι) (m : Message)
  | leave (i : ι)
  | record (i : ι) (note : Note)

/-- Which strand is not the same afterwards. -/
def Act.target? {ι : Type} : Act ι → Option ι
  | start _ child => some child
  | handle i _ | leave i => some i
  | record _ _ => none

end Strand

/-- All strands that there are or will be. -/
abbrev Strands (ι : Type) := ι → Strand

namespace Strands
open Strand (Act)
variable {ι : Type} [DecidableEq ι]

def atRest : Strands ι := fun _ => .resting none

def act (strands : Strands ι) : Act ι → Strands ι
  | .start parent child => Function.update strands child (strands parent)
  | .handle i m => Function.update strands i (.working m)
  | .leave i => Function.update strands i { strands i with busy := false }
  | .record _ _ => strands

def run (strands : Strands ι) (acts : List (Act ι)) : Strands ι := acts.foldl act strands

omit [DecidableEq ι] in
/-- The record that is made, if one is, with the strand that makes it. -/
def recorded (strands : Strands ι) : Act ι → List (Strand × Record)
  | .record i note => [(strands i, note.on (strands i).bound)]
  | .start _ _ | .handle _ _ | .leave _ => []

/-- The records made, each with the strand that made it as it was then. -/
def made (strands : Strands ι) : List (Act ι) → List (Strand × Record)
  | [] => []
  | a :: acts => strands.recorded a ++ (strands.act a).made acts

variable {strands : Strands ι} {i parent : ι}

theorem run_append (strands : Strands ι) (acts more : List (Act ι)) :
    strands.run (acts ++ more) = (strands.run acts).run more := List.foldl_append

theorem made_append (strands : Strands ι) (acts more : List (Act ι)) :
    strands.made (acts ++ more) = strands.made acts ++ (strands.run acts).made more := by
  induction acts generalizing strands with
  | nil => rfl
  | cons a acts ih =>
    rw [List.cons_append, made, made, ih, List.append_assoc]
    rfl

/-! ## What is bound -/

omit [DecidableEq ι] in
theorem follows_atRest (i : ι) : (atRest i).Follows := rfl

theorem follows_act (h : ∀ i, (strands i).Follows) (a : Act ι) (i : ι) : (strands.act a i).Follows := by
  have hupdate : ∀ (child : ι) (s : Strand), s.Follows → (Function.update strands child s i).Follows := by
    intro child s hs
    by_cases hi : i = child
    · subst hi
      rwa [Function.update_self]
    · rw [Function.update_of_ne hi]
      exact h i
  cases a with
  | start parent child => exact hupdate child _ (h parent)
  | handle j m => exact hupdate j _ rfl
  | leave j => exact hupdate j _ (h j)
  | record j note => exact h i

/-- Whatever happens, every strand stays bound to the channel of its latest message. -/
theorem follows_run (h : ∀ i, (strands i).Follows) (acts : List (Act ι)) (i : ι) : (strands.run acts i).Follows := by
  induction acts generalizing strands with
  | nil => exact h i
  | cons a acts ih => exact ih (follows_act h a)

/-- A record is made under the channel of the latest message of its strand. -/
theorem of_mem_made (h : ∀ i, (strands i).Follows) {acts : List (Act ι)} {made : Strand × Record}
    (hmade : made ∈ strands.made acts) : made.1.Follows ∧ made.2.channel = made.1.bound := by
  induction acts generalizing strands with
  | nil => cases hmade
  | cons a acts ih =>
    rcases List.mem_append.mp hmade with hnow | hlater
    · cases a with
      | record i note =>
        rw [List.mem_singleton.mp hnow]
        exact ⟨h i, rfl⟩
      | start parent child => cases hnow
      | handle i m => cases hnow
      | leave i => cases hnow
    · exact ih (follows_act h a) hlater

/-! ## What stays as it is -/

theorem act_of_not_target {a : Act ι} (h : a.target? ≠ some i) : strands.act a i = strands i := by
  cases a with
  | record j note => rfl
  | start parent child => exact Function.update_of_ne (fun heq => h (congrArg some heq.symm)) ..
  | handle j m => exact Function.update_of_ne (fun heq => h (congrArg some heq.symm)) ..
  | leave j => exact Function.update_of_ne (fun heq => h (congrArg some heq.symm)) ..

theorem run_of_not_target {acts : List (Act ι)} (h : ∀ a ∈ acts, a.target? ≠ some i) : strands.run acts i = strands i := by
  induction acts generalizing strands with
  | nil => rfl
  | cons a acts ih =>
    exact (ih fun a' ha' => h a' (List.mem_cons_of_mem a ha')).trans (act_of_not_target (h a List.mem_cons_self))

/-! ## Children -/

theorem made_map_start (parent : ι) (children : List ι) : strands.made (children.map (.start parent)) = [] := by
  induction children generalizing strands with
  | nil => rfl
  | cons child children ih => exact ih

/-- Children that are started together are as their parent is. -/
theorem run_map_start {children : List ι} (hparent : parent ∉ children) (i : ι) :
    strands.run (children.map (.start parent)) i = if i ∈ children then strands parent else strands i := by
  induction children generalizing strands with
  | nil => rfl
  | cons child children ih =>
    have hne : parent ≠ child := List.ne_of_not_mem_cons hparent
    have hkept : strands.act (.start parent child) parent = strands parent := Function.update_of_ne hne ..
    refine (ih (List.not_mem_of_not_mem_cons hparent)).trans ?_
    rw [hkept]
    by_cases hi : i = child
    · subst hi
      have hself : strands.act (.start parent i) i = strands parent := Function.update_self ..
      simp [hself]
    · have hother : strands.act (.start parent child) i = strands i := Function.update_of_ne hi ..
      simp [hother, hi]

end Strands
end ChatBot
