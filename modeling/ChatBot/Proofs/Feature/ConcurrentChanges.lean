import ChatBot.Proofs.Bot.Operations
import ChatBot.Proofs.Program.Crowd

/-!
Commands for custom responses that take turns. A command looks at memory and changes it in its first turn, with nothing in
between; all that comes later is the writing of the file and the reply. So whatever order the turns come in, what a command
replies is true of the moment of its first turn.
-/
set_option autoImplicit false

namespace ChatBot

namespace Storage.Entries
variable {entries : Entries} {c c' name name' : Text} {template : Template}

theorem get?_set_of_ne (h : (c', name') ≠ (c, name)) : (entries.set c name template).get? c' name' = entries.get? c' name' := by
  by_cases hc : c = c'
  · subst hc
    have hname : name ≠ name' := fun e => h (e ▸ rfl)
    simp [get?, hname]
  · simp [get?, hc]

theorem get?_remove_of_ne (h : (c', name') ≠ (c, name)) : (entries.remove c name).get? c' name' = entries.get? c' name' := by
  by_cases hc : c = c'
  · subst hc
    have hname : name ≠ name' := fun e => h (e ▸ rfl)
    simp [get?, hname]
  · simp [get?, hc]

theorem get?_set_eq_some (entries : Entries) (c name : Text) (template : Template) :
    (entries.set c name template).get? c name = some template := by
  simp [get?]

def NamesOnce (entries : Entries) : Prop := ∀ c, (Assoc.keys (entries.channel c)).Nodup

theorem get?_remove_eq_none (h : entries.NamesOnce) : (entries.remove c name).get? c name = none := by
  rw [get?, channel_remove_self]
  exact Assoc.find?_erase_self (h c)

end Storage.Entries

namespace Feature.CustomResponses
open Storage
open Program (Output Advance)
variable {ι τ : Type}

/-! ## The first turn -/

/-- What a command may do in a run that begins with a decision, and how it may end. -/
def Decision.Permits : Decision → List Output → Except Fault Unit → Prop
  | fail fault, outputs, ending => outputs = [] ∧ ending = .error fault
  | reply text, outputs, ending => outputs = [.response .reply text] ∧ ending = .ok ()
  | change _ note text, outputs, ending =>
    outputs = [.note note, .response .reply text] ∧ ending = .ok () ∨ outputs = [] ∧ ∃ fault, ending = .error fault

theorem Decision.Begins.entries {channel : Text} {w : World τ} {d : Decision} {x : Advance (World τ) Unit}
    (h : d.Begins channel w x) : x.state.shelf.entries = d.applied channel w.shelf.entries := by
  cases d with
  | fail fault =>
    obtain rfl := h
    rfl
  | reply text =>
    obtain rfl := h
    rfl
  | change templates note text =>
    obtain ⟨rest, -, rfl⟩ := h
    rfl

theorem Decision.Begins.keeps {channel : Text} {w : World τ} {d : Decision} {x : Advance (World τ) Unit}
    (h : d.Begins channel w x) : x.stand.rest.Keeps fun w => w.shelf.entries := by
  cases d with
  | fail fault =>
    obtain rfl := h
    exact Program.keeps_fail fault
  | reply text =>
    obtain rfl := h
    exact Program.keeps_done ()
  | change templates note text =>
    obtain ⟨rest, hrest, rfl⟩ := h
    exact hrest.keeps

theorem Decision.Begins.permits {channel : Text} {w : World τ} {d : Decision} {x : Advance (World τ) Unit}
    (h : d.Begins channel w x) {outputs : List Output} {ending : Except Fault Unit}
    (hyields : x.stand.rest.Yields outputs ending) : d.Permits (x.outputs ++ outputs) ending := by
  cases d with
  | fail fault =>
    obtain rfl := h
    obtain ⟨rfl, rfl⟩ := Program.yields_raise_iff.mp hyields
    exact ⟨rfl, rfl⟩
  | reply text =>
    obtain rfl := h
    obtain ⟨rfl, rfl⟩ := Program.yields_done_iff.mp hyields
    exact ⟨rfl, rfl⟩
  | change templates note text =>
    obtain ⟨rest, hrest, rfl⟩ := h
    exact hrest.yields outputs ending hyields

/-- Only the reply that was decided on is ever given. -/
theorem Decision.Permits.eq_of_reply {d : Decision} {outputs : List Output} {ending : Except Fault Unit} {text : Text}
    (h : d.Permits outputs ending) (hreply : Output.response .reply text ∈ outputs) :
    d = .reply text ∨ ∃ templates note, d = .change templates note text := by
  cases d with
  | fail fault =>
    obtain ⟨rfl, -⟩ := h
    cases hreply
  | reply text' =>
    obtain ⟨rfl, -⟩ := h
    cases List.mem_singleton.mp hreply
    exact .inl rfl
  | change templates note text' =>
    obtain ⟨rfl, -⟩ | ⟨rfl, -⟩ := h
    · simp only [List.mem_cons, List.not_mem_nil, or_false, reduceCtorEq, false_or] at hreply
      cases hreply
      exact .inr ⟨templates, note, rfl⟩
    · cases hreply

/-! ## Calls -/

structure Call where
  op : Operation
  args : Command.Arguments
  message : Message

namespace Call

def program (call : Call) : Program (World τ) Unit := call.op.handler call.args call.message

def decision (call : Call) (entries : Entries) : Decision :=
  call.op.decide call.args call.message.channel (entries.channel call.message.channel)

def applied (call : Call) (entries : Entries) : Entries := (call.decision entries).applied call.message.channel entries

def IsAbout (call : Call) (c name : Text) : Prop := call.message.channel = c ∧ call.args.get? "command" = some name

theorem IsAbout.unique {call : Call} {c c' name name' : Text} (h : call.IsAbout c name) (h' : call.IsAbout c' name') :
    c = c' ∧ name = name' :=
  ⟨h.1.symm.trans h'.1, Option.some.inj (h.2.symm.trans h'.2)⟩

/-- What a call decides, and when. -/
inductive Decides (call : Call) (entries : Entries) : Decision → Prop
  | fail (fault : Fault) : call.args.get? "command" = none → Decides call entries (.fail fault)
  | present {c name : Text} : call.op = .add → call.IsAbout c name → entries.get? c name ≠ none →
      Decides call entries (.reply (alreadyExists name))
  | missing {c name : Text} : call.op = .edit ∨ call.op = .remove → call.IsAbout c name → entries.get? c name = none →
      Decides call entries (.reply (doesNotExist name))
  | reject {text : Text} : call.op ≠ .remove → RejectsBody text → Decides call entries (.reply text)
  | store {c name body : Text} (note : Note) : call.op ≠ .remove → call.IsAbout c name →
      call.args.getNonEmpty? "body" = some body → (call.op = .add → entries.get? c name = none) →
      (call.op = .edit → entries.get? c name ≠ none) →
      Decides call entries (.change ((entries.channel c).insert name ⟨name, body⟩) note (updated name body))
  | takeOut {c name : Text} (note : Note) : call.op = .remove → call.IsAbout c name → entries.get? c name ≠ none →
      Decides call entries (.change ((entries.channel c).erase name) note (removed name))

theorem decides_update {call : Call} {entries : Entries} {name : Text} (hremove : call.op ≠ .remove)
    (hname : call.args.get? "command" = some name)
    (hadd : call.op = .add → entries.get? call.message.channel name = none)
    (hedit : call.op = .edit → entries.get? call.message.channel name ≠ none) :
    call.Decides entries (decideUpdate call.message.channel name (call.args.getNonEmpty? "body")
      (entries.channel call.message.channel)) := by
  rcases decideUpdate_cases call.message.channel name (call.args.getNonEmpty? "body") (entries.channel call.message.channel)
    with ⟨text, htext, hrejects⟩ | ⟨body, note, hbody, -, -, hchange⟩
  · rw [htext]
    exact .reject hremove hrejects
  · rw [hchange]
    exact .store note hremove ⟨rfl, hname⟩ hbody hadd hedit

theorem decides_decision (call : Call) (entries : Entries) : call.Decides entries (call.decision entries) := by
  obtain ⟨op, args, m⟩ := call
  cases hname : args.get? "command" with
  | none =>
    simp only [decision, Operation.decide, hname]
    exact .fail _ hname
  | some name =>
    simp only [decision, Operation.decide, hname]
    have habout : IsAbout ⟨op, args, m⟩ m.channel name := ⟨rfl, hname⟩
    cases op with
    | set => exact decides_update (by simp) hname (by simp) (by simp)
    | add =>
      rw [Operation.decideOn]
      split
      · rename_i hthere
        exact .present rfl habout (Option.isSome_iff_ne_none.mp hthere)
      · rename_i hthere
        exact decides_update (by simp) hname (fun _ => Option.not_isSome_iff_eq_none.mp hthere) (by simp)
    | edit =>
      rw [Operation.decideOn]
      split
      · rename_i hthere
        exact decides_update (by simp) hname (by simp) fun _ => Option.isSome_iff_ne_none.mp hthere
      · rename_i hthere
        exact .missing (.inl rfl) habout (Option.not_isSome_iff_eq_none.mp hthere)
    | remove =>
      rw [Operation.decideOn, decideRemoval]
      split
      · rename_i hthere
        exact .takeOut _ rfl habout (Option.isSome_iff_ne_none.mp hthere)
      · rename_i hthere
        exact .missing (.inr rfl) habout (Option.not_isSome_iff_eq_none.mp hthere)

/-! ## What a call does to memory -/

section
variable {call : Call} {entries : Entries} {c name : Text}

theorem applied_cases (call : Call) (entries : Entries) :
    call.applied entries = entries ∨
    (∃ c name body, call.op ≠ .remove ∧ call.IsAbout c name ∧ (call.op = .add → entries.get? c name = none) ∧
      (call.op = .edit → entries.get? c name ≠ none) ∧ call.applied entries = entries.set c name ⟨name, body⟩) ∨
    ∃ c name, call.op = .remove ∧ call.IsAbout c name ∧ call.applied entries = entries.remove c name := by
  have hdecides := call.decides_decision entries
  rw [applied]
  generalize call.decision entries = d at hdecides
  cases hdecides with
  | fail _ _ => exact .inl rfl
  | present _ _ _ => exact .inl rfl
  | missing _ _ _ => exact .inl rfl
  | reject _ _ => exact .inl rfl
  | store note hremove habout _ hadd hedit =>
    exact .inr (.inl ⟨_, _, _, hremove, habout, hadd, hedit, by rw [habout.1]; rfl⟩)
  | takeOut note hremove habout _ => exact .inr (.inr ⟨_, _, hremove, habout, by rw [habout.1]; rfl⟩)

theorem get?_applied_of_add (hadd : call.op = .add) {template : Template} (h : entries.get? c name = some template) :
    (call.applied entries).get? c name = some template := by
  rcases call.applied_cases entries with hsame | ⟨c', name', body, -, -, hfree, -, hset⟩ | ⟨_, _, hremove, -, -⟩
  · rw [hsame, h]
  · have hne : (c, name) ≠ (c', name') := by
      intro heq
      obtain ⟨rfl, rfl⟩ := Prod.mk.inj heq
      rw [hfree hadd] at h
      cases h
    rw [hset, Entries.get?_set_of_ne hne, h]
  · rw [hadd] at hremove
    cases hremove

theorem get?_applied_of_edit (hedit : call.op = .edit) (h : entries.get? c name = none) :
    (call.applied entries).get? c name = none := by
  rcases call.applied_cases entries with hsame | ⟨c', name', body, -, -, -, hthere, hset⟩ | ⟨_, _, hremove, -, -⟩
  · rw [hsame, h]
  · have hne : (c, name) ≠ (c', name') := by
      intro heq
      obtain ⟨rfl, rfl⟩ := Prod.mk.inj heq
      exact hthere hedit h
    rw [hset, Entries.get?_set_of_ne hne, h]
  · rw [hedit] at hremove
    cases hremove

/-- Only a removal of just this response takes it away. -/
theorem isAbout_of_lost (hbefore : entries.get? c name ≠ none) (hafter : (call.applied entries).get? c name = none) :
    call.op = .remove ∧ call.IsAbout c name := by
  rcases call.applied_cases entries with hsame | ⟨c', name', body, -, -, -, -, hset⟩ | ⟨c', name', hremove, habout, hgone⟩
  · exact absurd (hsame ▸ hafter) hbefore
  · by_cases heq : (c, name) = (c', name')
    · obtain ⟨rfl, rfl⟩ := Prod.mk.inj heq
      rw [hset, Entries.get?_set_eq_some] at hafter
      cases hafter
    · rw [hset, Entries.get?_set_of_ne heq] at hafter
      exact absurd hafter hbefore
  · by_cases heq : (c, name) = (c', name')
    · obtain ⟨rfl, rfl⟩ := Prod.mk.inj heq
      exact ⟨hremove, habout⟩
    · rw [hgone, Entries.get?_remove_of_ne heq] at hafter
      exact absurd hafter hbefore

theorem namesOnce_applied (call : Call) (h : entries.NamesOnce) : (call.applied entries).NamesOnce := by
  intro other
  rcases call.applied_cases entries with hsame | ⟨c', name', body, -, -, -, -, hset⟩ | ⟨c', name', -, -, hgone⟩
  · rw [hsame]
    exact h other
  · rw [hset]
    by_cases hc : c' = other
    · subst hc
      rw [Entries.channel_set_self]
      exact Assoc.nodup_keys_insert (h c')
    · rw [Entries.channel_set_of_ne _ _ _ hc]
      exact h other
  · rw [hgone]
    by_cases hc : c' = other
    · subst hc
      rw [Entries.channel_remove_self]
      exact Assoc.nodup_keys_erase (h c')
    · rw [Entries.channel_remove_of_ne _ _ hc]
      exact h other

end

/-! ## What a call replies -/

/-- A reply that tells of a stored body or of a removal comes with just that. -/
theorem applied_of_reply {call : Call} {entries : Entries} {text : Text}
    (hreply : call.decision entries = .reply text ∨ ∃ templates note, call.decision entries = .change templates note text)
    (hfront : Text.front? text = some 'u' ∨ Text.front? text = some 'r') :
    (∃ c name body, call.op ≠ .remove ∧ call.IsAbout c name ∧ call.args.getNonEmpty? "body" = some body ∧
      (call.op = .add → entries.get? c name = none) ∧ (call.op = .edit → entries.get? c name ≠ none) ∧
      call.applied entries = entries.set c name ⟨name, body⟩) ∨
    ∃ c name, call.op = .remove ∧ call.IsAbout c name ∧ entries.get? c name ≠ none ∧
      call.applied entries = entries.remove c name := by
  have hmarked : ∀ name rest : Text, marked name ++ rest ≠ text := by
    rintro name rest rfl
    rw [front?_marked] at hfront
    revert hfront
    decide
  have hdecides := call.decides_decision entries
  rw [applied]
  generalize call.decision entries = d at hdecides hreply
  cases hdecides with
  | fail _ _ =>
    obtain h | ⟨_, _, h⟩ := hreply <;> cases h
  | @present _ name _ _ _ =>
    obtain h | ⟨_, _, h⟩ := hreply
    · exact absurd (Decision.reply.inj h) (hmarked name _)
    · cases h
  | @missing _ name _ _ _ =>
    obtain h | ⟨_, _, h⟩ := hreply
    · exact absurd (Decision.reply.inj h) (hmarked name _)
    · cases h
  | reject _ hrejects =>
    obtain h | ⟨_, _, h⟩ := hreply
    · obtain rfl := Decision.reply.inj h
      rcases hrejects.front? with hother | hother | hother <;> rw [hother] at hfront <;> exact absurd hfront (by decide)
    · cases h
  | store note hremove habout hbody hadd hedit =>
    exact .inl ⟨_, _, _, hremove, habout, hbody, hadd, hedit, by rw [habout.1]; rfl⟩
  | takeOut note hremove habout hthere => exact .inr ⟨_, _, hremove, habout, hthere, by rw [habout.1]; rfl⟩

end Call

/-! ## Calls that take turns -/

/-- Calls, and the world in which they begin. -/
structure Session (ι τ : Type) where
  calls : ι → Call
  world : World τ

namespace Session
variable [DecidableEq ι] (s : Session ι τ)

def start : Crowd ι (World τ) Unit := ⟨s.world, fun i => (s.calls i).program⟩

def after (course : List ι) : Crowd ι (World τ) Unit := s.start.run Program.everywhere course

def memory (course : List ι) : Entries := (s.after course).state.shelf.entries

def turn (course : List ι) (i : ι) : Program.Slice (World τ) Unit := (s.after course).next Program.everywhere i

def outputs (course : List ι) (i : ι) : List Output := s.start.outputs Program.everywhere i course

/-- What holds of a call that has had its first turn. -/
structure Begun (course : List ι) (i : ι) (d : Decision) : Prop where
  keeps : ((s.after course).programs i).Keeps fun w => w.shelf.entries
  permits : ∀ outputs ending, ((s.after course).programs i).Yields outputs ending →
    d.Permits (s.outputs course i ++ outputs) ending

/-- What holds after a course. -/
structure Sound (course : List ι) : Prop where
  fresh : ∀ i ∉ course, (s.after course).programs i = (s.calls i).program ∧ s.outputs course i = []
  begun : ∀ i ∈ course, ∃ moment later, course = moment ++ i :: later ∧ i ∉ moment ∧
    s.Begun course i ((s.calls i).decision (s.memory moment))

variable {s} {course : List ι} {i : ι}

theorem after_concat (course : List ι) (i : ι) : s.after (course ++ [i]) = (s.after course).turn Program.everywhere i :=
  Crowd.run_concat ..

theorem memory_concat (course : List ι) (i : ι) : s.memory (course ++ [i]) = (s.turn course i).state.shelf.entries :=
  congrArg (fun crowd : Crowd ι (World τ) Unit => crowd.state.shelf.entries) (after_concat course i)

theorem outputs_concat_self (course : List ι) (i : ι) :
    s.outputs (course ++ [i]) i = s.outputs course i ++ (s.turn course i).outputs := by
  rw [outputs, Crowd.outputs_concat, if_pos rfl]
  rfl

theorem outputs_concat_of_ne {i j : ι} (h : j ≠ i) : s.outputs (course ++ [j]) i = s.outputs course i := by
  rw [outputs, Crowd.outputs_concat, if_neg h, List.append_nil]
  rfl

theorem begins_of_not_mem (hs : s.Sound course) (hi : i ∉ course) :
    ∃ x : Advance (World τ) Unit, s.turn course i = ⟨x.outputs, x.state, x.stand.rest⟩ ∧
      ((s.calls i).decision (s.memory course)).Begins (s.calls i).message.channel (s.after course).state x := by
  refine ⟨(s.calls i).program.advance Program.everywhere (s.after course).state, ?_, ?_⟩
  · rw [turn, Crowd.next, (hs.fresh i hi).1, Program.slice_eq_advance]
  · exact begins_handler rfl (s.calls i).op (s.calls i).args (s.calls i).message

theorem Sound.begun_concat_self (hs : s.Sound course) (i : ι) : ∃ moment later, course ++ [i] = moment ++ i :: later ∧
    i ∉ moment ∧ s.Begun (course ++ [i]) i ((s.calls i).decision (s.memory moment)) := by
  have hprogram : (s.after (course ++ [i])).programs i = (s.turn course i).rest := by
    rw [after_concat]
    exact Crowd.programs_turn_self ..
  by_cases hi : i ∈ course
  · obtain ⟨moment, later, hcourse, hmoment, hbegun⟩ := hs.begun i hi
    refine ⟨moment, later ++ [i], by simp [hcourse], hmoment, ?_, fun outputs ending h => ?_⟩
    · rw [hprogram]
      exact (hbegun.keeps.slice Program.everywhere (s.after course).state).2
    · rw [hprogram] at h
      rw [outputs_concat_self, List.append_assoc]
      exact hbegun.permits _ ending (Program.yields_of_slice h)
  · obtain ⟨x, hturn, hbegins⟩ := begins_of_not_mem hs hi
    refine ⟨course, [], rfl, hi, ?_, fun outputs ending h => ?_⟩
    · rw [hprogram, hturn]
      exact hbegins.keeps
    · rw [hprogram, hturn] at h
      rw [outputs_concat_self, (hs.fresh i hi).2, hturn]
      exact hbegins.permits h

theorem Sound.concat (hs : s.Sound course) (i : ι) : s.Sound (course ++ [i]) := by
  have hother : ∀ j, j ≠ i → (s.after (course ++ [i])).programs j = (s.after course).programs j := by
    intro j hj
    rw [after_concat]
    exact Crowd.programs_turn_of_ne _ _ hj
  refine ⟨fun j hj => ?_, fun j hj => ?_⟩
  · have hne : j ≠ i := by
      rintro rfl
      simp at hj
    have hcourse : j ∉ course := fun h => hj (List.mem_append_left _ h)
    rw [hother j hne, outputs_concat_of_ne hne.symm]
    exact hs.fresh j hcourse
  · by_cases hne : j = i
    · subst hne
      exact hs.begun_concat_self j
    · have hcourse : j ∈ course := (List.mem_append.mp hj).resolve_right fun h => hne (List.mem_singleton.mp h)
      obtain ⟨moment, later, rfl, hmoment, hbegun⟩ := hs.begun j hcourse
      refine ⟨moment, later ++ [i], by simp, hmoment, ?_, fun outputs ending h => ?_⟩
      · rw [hother j hne]
        exact hbegun.keeps
      · rw [hother j hne] at h
        rw [outputs_concat_of_ne (Ne.symm hne)]
        exact hbegun.permits outputs ending h

theorem sound (s : Session ι τ) (course : List ι) : s.Sound course := by
  induction course using List.reverseRecOn with
  | nil => exact ⟨fun i _ => ⟨rfl, rfl⟩, fun i hi => absurd hi List.not_mem_nil⟩
  | append_singleton course i ih => exact ih.concat i

/-- Memory changes with the first turn of a call, and with no other. -/
theorem memory_turn (s : Session ι τ) (course : List ι) (i : ι) :
    s.memory (course ++ [i]) = if i ∈ course then s.memory course else (s.calls i).applied (s.memory course) := by
  rw [memory_concat]
  split
  · rename_i hi
    obtain ⟨_, _, -, -, hbegun⟩ := (s.sound course).begun i hi
    exact (hbegun.keeps.slice Program.everywhere (s.after course).state).1
  · rename_i hi
    obtain ⟨x, hturn, hbegins⟩ := begins_of_not_mem (s.sound course) hi
    rw [hturn]
    exact hbegins.entries

/-- What a call has replied was decided on in its first turn. -/
theorem decision_of_reply {text : Text} (h : .response .reply text ∈ s.outputs course i) :
    ∃ moment later, course = moment ++ i :: later ∧ i ∉ moment ∧
      ((s.calls i).decision (s.memory moment) = .reply text ∨
        ∃ templates note, (s.calls i).decision (s.memory moment) = .change templates note text) := by
  by_cases hi : i ∈ course
  · obtain ⟨moment, later, hcourse, hmoment, hbegun⟩ := (s.sound course).begun i hi
    obtain ⟨outputs, ending, hyields⟩ := Program.exists_yields s.world ((s.after course).programs i)
    exact ⟨moment, later, hcourse, hmoment, (hbegun.permits outputs ending hyields).eq_of_reply (List.mem_append_left _ h)⟩
  · rw [((s.sound course).fresh i hi).2] at h
    cases h

/-! ## What a turn brings about -/

variable (s)

def Replies (course : List ι) (i : ι) (text : Text) : Prop := .response .reply text ∈ s.outputs course i

/-- With this turn there is a response where there was none. -/
def Creates (course : List ι) (i : ι) (c name : Text) : Prop :=
  (s.memory course).get? c name = none ∧ (s.memory (course ++ [i])).get? c name ≠ none

/-- With this turn there is no response where there was one. -/
def TakesOut (course : List ι) (i : ι) (c name : Text) : Prop :=
  (s.memory course).get? c name ≠ none ∧ (s.memory (course ++ [i])).get? c name = none

variable {s} {c name : Text}

theorem of_takesOut (h : s.TakesOut course i c name) :
    i ∉ course ∧ (s.calls i).op = .remove ∧ (s.calls i).IsAbout c name := by
  obtain ⟨hbefore, hafter⟩ := h
  rw [memory_turn] at hafter
  split at hafter
  · exact absurd hafter hbefore
  · rename_i hi
    exact ⟨hi, Call.isAbout_of_lost hbefore hafter⟩

/-- A response that was created stays until a removal of it begins. -/
theorem not_creates_of_created {moment between : List ι} {i j : ι} (hi : s.Creates moment i c name)
    (hremove : ∀ first k rest, between = first ++ k :: rest → k ∉ moment ++ i :: first → (s.calls k).IsAbout c name →
      (s.calls k).op ≠ .remove) : ¬ s.Creates (moment ++ i :: between) j c name := by
  rintro ⟨habsent, -⟩
  obtain ⟨first, k, rest, rfl, hpresent, hgone⟩ := exists_turn_of_change
    (fun course => (s.memory course).get? c name = none) (moment ++ [i]) hi.2 (by simpa using habsent)
  obtain ⟨hk, hop, habout⟩ := of_takesOut ⟨hpresent, hgone⟩
  exact hremove first k rest rfl (by simpa using hk) habout hop

/-- Between two removals of one response it is created again. -/
theorem exists_creates_between {moment between : List ι} {i j : ι} (hi : s.TakesOut moment i c name)
    (hj : s.TakesOut (moment ++ i :: between) j c name) :
    ∃ first k rest, between = first ++ k :: rest ∧ s.Creates (moment ++ i :: first) k c name := by
  obtain ⟨first, k, rest, rfl, habsent, hpresent⟩ := exists_turn_of_change
    (fun course => (s.memory course).get? c name ≠ none) (moment ++ [i]) (fun h => h hi.2) (by simpa using hj.1)
  exact ⟨first, k, rest, rfl, by simpa using not_not.mp habsent, by simpa using hpresent⟩

theorem namesOnce_memory (hnames : s.world.shelf.entries.NamesOnce) (course : List ι) : (s.memory course).NamesOnce := by
  induction course using List.reverseRecOn with
  | nil => exact hnames
  | append_singleton course i ih =>
    rw [memory_turn]
    split
    · exact ih
    · exact Call.namesOnce_applied _ ih

/-- An added response is new, or the call ends at once with a reply that says why not. -/
theorem creates_or_declines (hadd : (s.calls i).op = .add) (habout : (s.calls i).IsAbout c name) (hi : i ∉ course) :
    s.Creates course i c name ∨ ∃ text, (text = alreadyExists name ∨ RejectsBody text) ∧
      (s.turn course i).outputs = [.response .reply text] ∧ (s.turn course i).rest = .done () ∧
      s.memory (course ++ [i]) = s.memory course := by
  obtain ⟨x, hturn, hbegins⟩ := begins_of_not_mem (s.sound course) hi
  have hmemory : s.memory (course ++ [i]) = (s.calls i).applied (s.memory course) := by
    rw [memory_turn, if_neg hi]
  have hdecides := (s.calls i).decides_decision (s.memory course)
  rw [Call.applied] at hmemory
  rw [hturn]
  generalize (s.calls i).decision (s.memory course) = d at hdecides hbegins hmemory
  cases hdecides with
  | fail fault hnone =>
    rw [habout.2] at hnone
    cases hnone
  | present _ habout' _ =>
    obtain ⟨rfl, rfl⟩ := habout.unique habout'
    obtain rfl := hbegins
    exact .inr ⟨_, .inl rfl, rfl, rfl, hmemory⟩
  | missing hop _ _ =>
    rw [hadd] at hop
    exact absurd hop (by decide)
  | reject _ hrejects =>
    obtain rfl := hbegins
    exact .inr ⟨_, .inr hrejects, rfl, rfl, hmemory⟩
  | @store _ _ body note _ habout' _ hfree _ =>
    obtain ⟨rfl, rfl⟩ := habout.unique habout'
    have hset : s.memory (course ++ [i]) = (s.memory course).set c name ⟨name, body⟩ := by
      rw [hmemory, habout.1]
      rfl
    refine .inl ⟨hfree hadd, ?_⟩
    rw [hset, Entries.get?_set_eq_some]
    exact Option.some_ne_none _
  | takeOut _ hremove _ _ =>
    rw [hadd] at hremove
    cases hremove

/-- A command that replies that it has stored a body did so in its first turn. -/
theorem stored_of_reply {name body : Text} (hremove : (s.calls i).op ≠ .remove) (h : s.Replies course i (updated name body)) :
    ∃ moment later c own given, course = moment ++ i :: later ∧ i ∉ moment ∧ (s.calls i).IsAbout c own ∧
      (s.calls i).args.getNonEmpty? "body" = some given ∧
      ((s.calls i).op = .add → (s.memory moment).get? c own = none) ∧
      ((s.calls i).op = .edit → (s.memory moment).get? c own ≠ none) ∧
      s.memory (moment ++ [i]) = (s.memory moment).set c own ⟨own, given⟩ := by
  obtain ⟨moment, later, hcourse, hmoment, hdecision⟩ := decision_of_reply h
  have happlied := memory_turn s moment i
  rw [if_neg hmoment] at happlied
  rcases Call.applied_of_reply hdecision (.inl rfl) with ⟨c, own, given, -, habout, hgiven, hadd, hedit, hset⟩ | ⟨_, _, hop, -⟩
  · exact ⟨moment, later, c, own, given, hcourse, hmoment, habout, hgiven, hadd, hedit, happlied.trans hset⟩
  · exact absurd hop hremove

/-- A command that replies that it has removed a response did so in its first turn. -/
theorem takesOut_of_reply {name : Text} (hnames : s.world.shelf.entries.NamesOnce) (hremove : (s.calls i).op = .remove)
    (h : s.Replies course i (removed name)) :
    ∃ moment later c own, course = moment ++ i :: later ∧ i ∉ moment ∧ (s.calls i).IsAbout c own ∧
      s.TakesOut moment i c own := by
  obtain ⟨moment, later, hcourse, hmoment, hdecision⟩ := decision_of_reply h
  have happlied := memory_turn s moment i
  rw [if_neg hmoment] at happlied
  rcases Call.applied_of_reply hdecision (.inr rfl) with ⟨_, _, _, hop, -⟩ | ⟨c, own, -, habout, hthere, hgone⟩
  · exact absurd hremove hop
  · refine ⟨moment, later, c, own, hcourse, hmoment, habout, hthere, ?_⟩
    rw [happlied, hgone]
    exact Entries.get?_remove_eq_none (namesOnce_memory hnames moment)

/-- Commands for custom responses take turns in any order, with any writes failing. Each changes memory in its first turn only. An
add that replies that it has stored a body found no response, and an edit found one; adding never replaces a response, and
editing never brings one about. Of several adds for one name at most one brings a response about while no removal of it begins;
each other ends at once, because there is a response or because of the body. A remove that replies so took a response out, and
between two that took one out it was created again. -/
theorem concurrent_changes_are_safe (s : Session ι τ) (hnames : s.world.shelf.entries.NamesOnce) :
    (∀ course i, i ∈ course → s.memory (course ++ [i]) = s.memory course) ∧
    (∀ course i name body, (s.calls i).op = .add ∨ (s.calls i).op = .edit → s.Replies course i (updated name body) →
      ∃ moment later c own given, course = moment ++ i :: later ∧ i ∉ moment ∧ (s.calls i).IsAbout c own ∧
        (s.calls i).args.getNonEmpty? "body" = some given ∧
        ((s.calls i).op = .add → (s.memory moment).get? c own = none) ∧
        ((s.calls i).op = .edit → (s.memory moment).get? c own ≠ none) ∧
        s.memory (moment ++ [i]) = (s.memory moment).set c own ⟨own, given⟩) ∧
    (∀ course i c name, (s.calls i).op = .add → ∀ template, (s.memory course).get? c name = some template →
      (s.memory (course ++ [i])).get? c name = some template) ∧
    (∀ course i c name, (s.calls i).op = .edit → (s.memory course).get? c name = none →
      (s.memory (course ++ [i])).get? c name = none) ∧
    (∀ course i c name, (s.calls i).op = .add → (s.calls i).IsAbout c name → i ∉ course →
      s.Creates course i c name ∨ ∃ text, (text = alreadyExists name ∨ RejectsBody text) ∧
        (s.turn course i).outputs = [.response .reply text] ∧ (s.turn course i).rest = .done () ∧
        s.memory (course ++ [i]) = s.memory course) ∧
    (∀ moment i between j c name, s.Creates moment i c name →
      (∀ first k rest, between = first ++ k :: rest → k ∉ moment ++ i :: first → (s.calls k).IsAbout c name →
        (s.calls k).op ≠ .remove) →
      ¬ s.Creates (moment ++ i :: between) j c name) ∧
    (∀ course i name, (s.calls i).op = .remove → s.Replies course i (removed name) →
      ∃ moment later c own, course = moment ++ i :: later ∧ i ∉ moment ∧ (s.calls i).IsAbout c own ∧
        s.TakesOut moment i c own) ∧
    ∀ moment i between j c name, s.TakesOut moment i c name → s.TakesOut (moment ++ i :: between) j c name →
      ∃ first k rest, between = first ++ k :: rest ∧ s.Creates (moment ++ i :: first) k c name := by
  refine ⟨fun course i hi => ?_, fun course i name body hop h => ?_, fun course i c name hadd template h => ?_,
    fun course i c name hedit h => ?_, fun course i c name => creates_or_declines,
    fun moment i between j c name => not_creates_of_created, fun course i name => takesOut_of_reply hnames,
    fun moment i between j c name => exists_creates_between⟩
  · rw [memory_turn, if_pos hi]
  · have hremove : (s.calls i).op ≠ .remove := by
      rcases hop with hop | hop <;> simp [hop]
    exact stored_of_reply hremove h
  · rw [memory_turn]
    split
    · exact h
    · exact Call.get?_applied_of_add hadd h
  · rw [memory_turn]
    split
    · exact h
    · exact Call.get?_applied_of_edit hedit h

/-- Two adds for one name, of which the second begins while the first has yet to write the file. -/
theorem concurrent_changes_are_safe_for_two_adds :
    let m : Message := ⟨"#lobby", "mod", [], ["moderator"], [], "1"⟩
    let schema : Command.Schema := ⟨"add", "!add <command> <body...>", Operation.add.slots, true, "!"⟩
    let s : Session Bool Unit := ⟨fun i => ⟨.add, ⟨schema, [("command", "hi"), ("body", if i then "one" else "two")]⟩, m⟩,
      { files := .empty, clock := (), replies := [], draws := [], shelf := ⟨FilePath.ofText "store.json", [], false⟩,
        lastChatter := none }⟩
    s.world.shelf.entries.NamesOnce ∧ s.Creates [] true "#lobby" "hi" ∧
      ∃ text, (text = alreadyExists "hi" ∨ RejectsBody text) ∧ (s.turn [true] false).outputs = [.response .reply text] ∧
        (s.memory [true, false]).get? "#lobby" "hi" = some ⟨"hi", "one"⟩ := by
  intro m schema s
  have hnames : s.world.shelf.entries.NamesOnce := fun c => List.nodup_nil
  have hcreates : s.Creates [] true "#lobby" "hi" := ⟨by decide +kernel, by decide +kernel⟩
  have hmemory : (s.memory [true]).get? "#lobby" "hi" = some ⟨"hi", "one"⟩ := by decide +kernel
  obtain ⟨-, -, -, -, hadds, hfirst, -⟩ := concurrent_changes_are_safe s hnames
  have hsecond : ¬ s.Creates [true] false "#lobby" "hi" :=
    hfirst [] true [] false "#lobby" "hi" hcreates fun first k rest h => by simp at h
  rcases hadds [true] false "#lobby" "hi" rfl ⟨rfl, rfl⟩ (by simp) with h | ⟨text, htext, houtputs, -, hsame⟩
  · exact absurd h hsecond
  · exact ⟨hnames, hcreates, text, htext, houtputs, by rw [← hmemory, ← hsame]; rfl⟩

end Session

end Feature.CustomResponses
end ChatBot
