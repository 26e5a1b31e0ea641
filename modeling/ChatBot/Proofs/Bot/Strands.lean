import ChatBot.Proofs.Bot.Provenance
import ChatBot.Proofs.Program.Fairness
import ChatBot.Proofs.Program.Strands

/-!
The strands of a bot at work. A message is handled in the strand that it arrives in and in others that this one starts: one for the
command, and one that starts a strand for each passive handler and reports on them in the end. Whatever other errands do in between, all
of them work for the message, and the records that they make are those of the message's errand.
-/
set_option autoImplicit false

namespace ChatBot
open Strand (Act)

/-! ## Records of errands -/

namespace Errand
variable {σ : Type} {t : Errand σ} {stops : Pause → Bool} {turn : Turn} {s : σ} {r : Record}

theorem channel_take (t : Errand σ) (stops : Pause → Bool) (turn : Turn) (s : σ) : (t.take stops turn s).1.channel = t.channel := by
  cases turn with
  | command => rfl
  | report => rw [take_report]
  | passive place =>
    rw [take]
    split <;> rfl

theorem turns_take (t : Errand σ) (stops : Pause → Bool) (turn : Turn) (s : σ) : (t.take stops turn s).1.turns = t.turns := by
  have hlength : (t.take stops turn s).1.passives.length = t.passives.length := by
    cases turn with
    | command => rfl
    | report => rw [take_report]
    | passive place =>
      rw [take]
      split
      · rfl
      · exact List.length_set
  rw [turns, turns, passiveTurns, passiveTurns, hlength]

theorem channel_of_mem_recordsOf {m : Message} {channel : Text} {output : Program.Output} (h : r ∈ recordsOf m channel output) :
    r.channel = channel := by
  cases output with
  | note n =>
    rw [List.mem_singleton.mp h]
    rfl
  | response kind text =>
    rw [recordsOf] at h
    split at h
    · cases h
    · rw [List.mem_singleton.mp h]
      rfl

theorem channel_of_mem_failureRecords (h : r ∈ t.failureRecords) : r.channel = t.channel := by
  obtain ⟨p, -, hp⟩ := List.mem_filterMap.mp h
  split at hp
  · rw [← Option.some.inj hp]
    rfl
  · cases hp

/-- A turn that makes records is one of the errand's, and makes them under the errand's channel. -/
theorem of_mem_take (h : r ∈ (t.take stops turn s).2.2) : turn ∈ t.turns ∧ r.channel = t.channel := by
  have houtputs : ∀ outputs : List Program.Output, r ∈ outputs.flatMap (recordsOf t.message t.channel) → r.channel = t.channel := by
    intro outputs hr
    obtain ⟨output, -, houtput⟩ := List.mem_flatMap.mp hr
    exact channel_of_mem_recordsOf houtput
  cases turn with
  | command => exact ⟨List.mem_cons_self, houtputs _ h⟩
  | report =>
    rw [take_report] at h
    dsimp only at h
    split at h
    · exact ⟨List.mem_append_right _ List.mem_cons_self, channel_of_mem_failureRecords h⟩
    · cases h
  | passive place =>
    rw [take] at h
    split at h
    · cases h
    · rename_i p hp
      exact ⟨passive_mem_turns (List.getElem?_eq_some_iff.mp hp).1, houtputs _ h⟩

theorem message_takeAll (t : Errand σ) (stops : Pause → Bool) (turns : List Turn) (s : σ) :
    (t.takeAll stops turns s).1.message = t.message := by
  induction turns generalizing t s with
  | nil => rfl
  | cons turn turns ih =>
    rw [takeAll]
    exact (ih _ _).trans (message_take t stops turn s)

end Errand

/-! ## Strands of a bot -/

/-- The strands of a bot at work: those in which messages arrive, and one for every turn of the errand at a place. Requests are made in
threads of their own. -/
inductive Post where
  | reader (number : ℕ)
  | worker (place : ℕ) (turn : Turn)
  | thread (place : ℕ) (turn : Turn)
  deriving DecidableEq

namespace Post

/-- A message arrives, and the strands for its errand are started. -/
def arrival {σ : Type} (reader place : ℕ) (t : Errand σ) : List (Act Post) :=
  .handle (.reader reader) t.message ::
    (([Turn.command, .report].map (worker place)).map (.start (.reader reader)) ++
      (t.passiveTurns.map (worker place)).map (.start (.worker place .report)))

/-- A note is made in a turn. -/
def noting (place : ℕ) (turn : Turn) (n : Note) : List (Act Post) :=
  match n with
  | .request _ _ _ _ => [.start (.worker place turn) (.thread place turn), .record (.thread place turn) n]
  | .log _ _ _ | .draw _ | .delay _ => [.record (.worker place turn) n]

variable {strands : Strands Post}

theorem eq_thread_of_target {place : ℕ} {turn : Turn} {n : Note} {a : Act Post} {i : Post} (h : a ∈ noting place turn n)
    (ha : a.target? = some i) : i = .thread place turn := by
  have hnone : a = .record (.worker place turn) n → i = .thread place turn := by
    rintro rfl
    cases ha
  cases n with
  | request url body timeout headers =>
    rcases List.mem_cons.mp h with rfl | hrecord
    · exact (Option.some.inj ha).symm
    · obtain rfl := List.mem_singleton.mp hrecord
      cases ha
  | log level text fault => exact hnone (List.mem_singleton.mp h)
  | draw d => exact hnone (List.mem_singleton.mp h)
  | delay milliseconds => exact hnone (List.mem_singleton.mp h)

/-- A thread is bound to what its parent is bound to. -/
theorem made_noting (place : ℕ) (turn : Turn) (n : Note) :
    strands.made (noting place turn n) = [(strands (.worker place turn), n.on (strands (.worker place turn)).bound)] := by
  cases n with
  | request url body timeout headers =>
    have hthread : strands.act (.start (.worker place turn) (.thread place turn)) (.thread place turn) =
        strands (.worker place turn) := Function.update_self ..
    simp only [noting, Strands.made, Strands.recorded, hthread, List.nil_append, List.append_nil]
  | log level text fault => rfl
  | draw d => rfl
  | delay milliseconds => rfl

theorem made_flatMap_noting (place : ℕ) (turn : Turn) (records : List Record) :
    strands.made (records.flatMap fun r => noting place turn r.note) =
      records.map fun r => (strands (.worker place turn), r.note.on (strands (.worker place turn)).bound) := by
  induction records generalizing strands with
  | nil => rfl
  | cons r records ih =>
    have hkept : strands.run (noting place turn r.note) (.worker place turn) = strands (.worker place turn) :=
      Strands.run_of_not_target fun a ha htarget => nomatch eq_thread_of_target ha htarget
    rw [List.flatMap_cons, Strands.made_append, made_noting, ih, hkept]
    rfl

end Post

/-- What may happen next: a message arrives in a strand, which leaves off when it is handled and may make records of its own, or the
errands go on. -/
inductive Happening (σ : Type) where
  | arrive (reader : ℕ) (m : Message)
  | leave (reader : ℕ)
  | note (reader : ℕ) (n : Note)
  | move (m : Move σ)

def Happening.arrival? {σ : Type} : Happening σ → Option (ℕ × Message)
  | arrive reader m => some (reader, m)
  | leave _ | note _ _ | move _ => none

namespace Bot
variable {τ : Type}

def next (bot : Bot τ) (w : Workload (World τ)) : Happening (World τ) → Workload (World τ)
  | .arrive _ m => ⟨w.state, w.errands ++ [bot.errand m]⟩
  | .leave _ | .note _ _ => w
  | .move m => w.move m

def proceed (bot : Bot τ) (w : Workload (World τ)) (happenings : List (Happening (World τ))) : Workload (World τ) :=
  happenings.foldl bot.next w

/-- What happens in the strands meanwhile. -/
def actsOf (bot : Bot τ) (w : Workload (World τ)) : Happening (World τ) → List (Act Post)
  | .arrive reader m => Post.arrival reader w.errands.length (bot.errand m)
  | .leave reader => [.leave (.reader reader)]
  | .note reader n => [.record (.reader reader) n]
  | .move (.change _) => []
  | .move (.turn place stops turn) =>
    w.errands[place]?.elim [] fun t => (t.take stops turn w.state).2.2.flatMap fun r => Post.noting place turn r.note

def acts (bot : Bot τ) (w : Workload (World τ)) : List (Happening (World τ)) → List (Act Post)
  | [] => []
  | h :: happenings => bot.actsOf w h ++ bot.acts (bot.next w h) happenings

theorem proceed_append (bot : Bot τ) (w : Workload (World τ)) (happenings more : List (Happening (World τ))) :
    bot.proceed w (happenings ++ more) = bot.proceed (bot.proceed w happenings) more := List.foldl_append

theorem acts_append (bot : Bot τ) (w : Workload (World τ)) (happenings more : List (Happening (World τ))) :
    bot.acts w (happenings ++ more) = bot.acts w happenings ++ bot.acts (bot.proceed w happenings) more := by
  induction happenings generalizing w with
  | nil => rfl
  | cons h happenings ih =>
    rw [List.cons_append, acts, acts, ih, List.append_assoc]
    rfl

/-! ## All strands of an errand work for its message -/

/-- Errands have their message's channel, and their strands work for the message. -/
def Staffed (strands : Strands Post) (w : Workload (World τ)) : Prop :=
  ∀ place t, w.errands[place]? = some t → t.channel = t.message.channel ∧
    ∀ turn ∈ t.turns, strands (.worker place turn) = .working t.message

variable {bot : Bot τ} {strands : Strands Post} {w : Workload (World τ)}

theorem staffed_nil (strands : Strands Post) (world : World τ) : Staffed strands ⟨world, []⟩ := by
  intro place t ht
  cases ht

theorem run_arrival_reader {σ : Type} (reader place : ℕ) (t : Errand σ) :
    strands.run (Post.arrival reader place t) (.reader reader) = .working t.message := by
  have hlater : ∀ a ∈ ([Turn.command, .report].map (Post.worker place)).map (Act.start (.reader reader)) ++
      (t.passiveTurns.map (Post.worker place)).map (Act.start (.worker place .report)), a.target? ≠ some (.reader reader) := by
    intro a ha
    simp only [List.map_map, List.mem_append, List.mem_map] at ha
    rcases ha with ⟨turn, -, rfl⟩ | ⟨turn, -, rfl⟩ <;> exact nofun
  exact (Strands.run_of_not_target hlater).trans (Function.update_self ..)

theorem run_arrival_worker {σ : Type} (reader place : ℕ) (t : Errand σ) {turn : Turn} (h : turn ∈ t.turns) :
    strands.run (Post.arrival reader place t) (.worker place turn) = .working t.message := by
  have hreader : strands.act (.handle (.reader reader) t.message) (.reader reader) = .working t.message := Function.update_self ..
  have hfirst : Post.reader reader ∉ [Turn.command, .report].map (Post.worker place) := by simp
  have hsecond : Post.worker place .report ∉ t.passiveTurns.map (Post.worker place) := by simp [Errand.passiveTurns]
  change ((strands.act (.handle (.reader reader) t.message)).run _) _ = _
  rw [Strands.run_append, Strands.run_map_start hsecond, Strands.run_map_start hfirst, Strands.run_map_start hfirst, hreader]
  -- The strand for the report is one of the first two, and every other turn is the command's or started by that strand.
  rcases List.mem_append.mp h with hcommand | hreport
  · rcases List.mem_cons.mp hcommand with rfl | hpassive
    · simp
    · simp [hpassive]
  · simp [List.mem_singleton.mp hreport]

theorem made_arrival {σ : Type} (reader place : ℕ) (t : Errand σ) : strands.made (Post.arrival reader place t) = [] := by
  rw [Post.arrival, Strands.made, Strands.made_append, Strands.made_map_start, Strands.made_map_start]
  rfl

/-- Nothing but threads is started in moves. -/
theorem exists_thread_of_move {bot : Bot τ} {w : Workload (World τ)} {move : Move (World τ)} {a : Act Post} {i : Post}
    (h : a ∈ bot.actsOf w (.move move)) (ha : a.target? = some i) : ∃ place turn, i = .thread place turn := by
  cases move with
  | change f => cases h
  | turn place stops turn =>
    rw [actsOf] at h
    cases ht : w.errands[place]? with
    | none =>
      rw [ht] at h
      cases h
    | some t =>
      rw [ht] at h
      obtain ⟨r, -, hr⟩ := List.mem_flatMap.mp h
      exact ⟨place, turn, Post.eq_thread_of_target hr ha⟩

/-- Only an arrival starts workers, and only those of the errand that it starts. -/
theorem run_actsOf_worker (bot : Bot τ) (w : Workload (World τ)) (h : Happening (World τ)) {place : ℕ}
    (hplace : place < w.errands.length) (turn : Turn) :
    strands.run (bot.actsOf w h) (.worker place turn) = strands (.worker place turn) := by
  refine Strands.run_of_not_target fun a ha htarget => ?_
  cases h with
  | arrive reader m =>
    rw [actsOf, Post.arrival] at ha
    simp only [List.map_map, List.mem_cons, List.mem_append, List.mem_map] at ha
    rcases ha with rfl | ⟨turn', -, rfl⟩ | ⟨turn', -, rfl⟩
    · cases htarget
    · cases htarget
      exact Nat.lt_irrefl _ hplace
    · cases htarget
      exact Nat.lt_irrefl _ hplace
  | leave reader =>
    obtain rfl := List.mem_singleton.mp ha
    cases htarget
  | note reader n =>
    obtain rfl := List.mem_singleton.mp ha
    cases htarget
  | move move =>
    obtain ⟨place', turn', heq⟩ := exists_thread_of_move ha htarget
    cases heq

theorem Staffed.next (hstaffed : Staffed strands w) (bot : Bot τ) (h : Happening (World τ)) :
    Staffed (strands.run (bot.actsOf w h)) (bot.next w h) := by
  have hkept : ∀ place t, w.errands[place]? = some t → t.channel = t.message.channel ∧
      ∀ turn ∈ t.turns, strands.run (bot.actsOf w h) (.worker place turn) = .working t.message := by
    intro place t ht
    obtain ⟨hchannel, hworkers⟩ := hstaffed place t ht
    refine ⟨hchannel, fun turn hturn => ?_⟩
    rw [run_actsOf_worker bot w h (List.getElem?_eq_some_iff.mp ht).1, hworkers turn hturn]
  intro place t ht
  cases h with
  | leave reader => exact hkept place t ht
  | note reader n => exact hkept place t ht
  | arrive reader m =>
    rcases Nat.lt_or_ge place w.errands.length with hold | hnew
    · exact hkept place t ((List.getElem?_append_left hold).symm.trans ht)
    · -- The only new errand is the message's, whose strands have just been started.
      rw [Bot.next, List.getElem?_append_right hnew] at ht
      obtain ⟨hlast, rfl⟩ := List.getElem?_eq_some_iff.mp ht
      obtain rfl : place = w.errands.length := by
        simp only [List.length_singleton] at hlast
        omega
      simp only [Nat.sub_self, List.getElem_cons_zero]
      exact ⟨rfl, fun turn hturn => run_arrival_worker reader _ _ hturn⟩
  | move move =>
    rw [Bot.next, Workload.errands_move] at ht
    obtain ⟨before, hbefore, rfl⟩ := Option.map_eq_some_iff.mp ht
    obtain ⟨hchannel, hworkers⟩ := hkept place before hbefore
    have hmessage : (before.moved place w.state move).message = before.message := (before.leaves_moved place w.state move).message
    have hsame : (before.moved place w.state move).channel = before.channel ∧
        (before.moved place w.state move).turns = before.turns := by
      cases move with
      | change f => exact ⟨rfl, rfl⟩
      | turn place' stops turn =>
        rw [Errand.moved]
        split
        · exact ⟨before.channel_take stops turn w.state, before.turns_take stops turn w.state⟩
        · exact ⟨rfl, rfl⟩
    rw [hmessage, hsame.1, hsame.2]
    exact ⟨hchannel, hworkers⟩

theorem Staffed.run (hstaffed : Staffed strands w) (bot : Bot τ) (happenings : List (Happening (World τ))) :
    Staffed (strands.run (bot.acts w happenings)) (bot.proceed w happenings) := by
  induction happenings generalizing strands w with
  | nil => exact hstaffed
  | cons h happenings ih =>
    rw [acts, Strands.run_append]
    exact ih (hstaffed.next bot h)

/-- The strands of an errand make just the errand's records. -/
theorem Staffed.made_turn (hstaffed : Staffed strands w) (bot : Bot τ) {place : ℕ} {t : Errand (World τ)}
    (ht : w.errands[place]? = some t) (stops : Pause → Bool) (turn : Turn) :
    strands.made (bot.actsOf w (.move (.turn place stops turn))) =
      (t.take stops turn w.state).2.2.map (Strand.working t.message, ·) := by
  obtain ⟨hchannel, hworkers⟩ := hstaffed place t ht
  rw [actsOf, ht, Option.elim_some, Post.made_flatMap_noting]
  -- A record carries the errand's channel by definition; here it carries what is bound in the strand of the turn.
  refine List.map_congr_left fun r hr => ?_
  obtain ⟨hturn, hr⟩ := Errand.of_mem_take hr
  rw [hworkers turn hturn]
  refine congrArg (Prod.mk _) ?_
  rw [Strand.working, ← hchannel, ← hr]
  rfl

theorem made_note (bot : Bot τ) (w : Workload (World τ)) (reader : ℕ) (n : Note) :
    strands.made (bot.acts w [.note reader n]) = [(strands (.reader reader), n.on (strands (.reader reader)).bound)] := rfl

/-! ## The strands in which a message is handled -/

/-- Happenings lead from one workload to another, and these records are made in them. -/
structure Leads (bot : Bot τ) (strands : Strands Post) (w : Workload (World τ)) (happenings : List (Happening (World τ)))
    (w' : Workload (World τ)) (made : List (Strand × Record)) : Prop where
  after : bot.proceed w happenings = w'
  made : strands.made (bot.acts w happenings) = made

section
variable {w' w'' : Workload (World τ)} {happenings more : List (Happening (World τ))} {first second : List (Strand × Record)}

theorem Leads.append (h : bot.Leads strands w happenings w' first)
    (h' : bot.Leads (strands.run (bot.acts w happenings)) w' more w'' second) :
    bot.Leads strands w (happenings ++ more) w'' (first ++ second) := by
  constructor
  · rw [proceed_append, h.after, h'.after]
  · rw [acts_append, Strands.made_append, h.after, h.made, h'.made]

theorem Leads.staffed (h : bot.Leads strands w happenings w' first) (hstaffed : Staffed strands w) :
    Staffed (strands.run (bot.acts w happenings)) w' := h.after ▸ hstaffed.run bot happenings

end

theorem leads_takeAll (bot : Bot τ) {before : List (Errand (World τ))} {t : Errand (World τ)} {world : World τ}
    (hstaffed : Staffed strands ⟨world, before ++ [t]⟩) (stops : Pause → Bool) (turns : List Turn) :
    bot.Leads strands ⟨world, before ++ [t]⟩ (turns.map fun turn => .move (.turn before.length stops turn))
      ⟨(t.takeAll stops turns world).2.1, before ++ [(t.takeAll stops turns world).1]⟩
      ((t.takeAll stops turns world).2.2.map (Strand.working t.message, ·)) := by
  induction turns generalizing strands t world with
  | nil => exact ⟨rfl, rfl⟩
  | cons turn turns ih =>
    have ht : (before ++ [t])[before.length]? = some t := by simp
    have hfirst : bot.Leads strands ⟨world, before ++ [t]⟩ [.move (.turn before.length stops turn)]
        ⟨(t.take stops turn world).2.1, before ++ [(t.take stops turn world).1]⟩
        ((t.take stops turn world).2.2.map (Strand.working t.message, ·)) := by
      refine ⟨Workload.move_turn before [] t world stops turn, ?_⟩
      rw [acts, acts, List.append_nil, hstaffed.made_turn bot ht]
    have hlater := ih (hfirst.staffed hstaffed)
    rw [Errand.message_take] at hlater
    rw [Errand.takeAll, List.map_append]
    exact hfirst.append hlater

/-- Turns of errands are no business of the strands in which messages arrive. -/
theorem run_acts_moves_reader (bot : Bot τ) (w : Workload (World τ)) (moves : List (Move (World τ))) (reader : ℕ) :
    strands.run (bot.acts w (moves.map .move)) (.reader reader) = strands (.reader reader) := by
  induction moves generalizing strands w with
  | nil => rfl
  | cons move moves ih =>
    rw [List.map_cons, acts, Strands.run_append, ih]
    refine Strands.run_of_not_target fun a ha htarget => ?_
    obtain ⟨place, turn, heq⟩ := exists_thread_of_move ha htarget
    cases heq

/-- Turns of the last errand lead to what is left of it, and its strands make these records. -/
def Reaches (bot : Bot τ) (before : List (Errand (World τ))) (t : Errand (World τ)) (world : World τ)
    (reached : Errand (World τ) × World τ × List Record) : Prop :=
  reached.1.message = t.message ∧ ∀ strands, Staffed strands ⟨world, before ++ [t]⟩ → ∃ moves : List (Move (World τ)),
    bot.Leads strands ⟨world, before ++ [t]⟩ (moves.map .move) ⟨reached.2.1, before ++ [reached.1]⟩
      (reached.2.2.map (Strand.working t.message, ·))

section
variable {before : List (Errand (World τ))} {t : Errand (World τ)} {world : World τ}

theorem Reaches.trans {first second : Errand (World τ) × World τ × List Record} (h : bot.Reaches before t world first)
    (h' : bot.Reaches before first.1 first.2.1 second) :
    bot.Reaches before t world (second.1, second.2.1, first.2.2 ++ second.2.2) := by
  refine ⟨h'.1.trans h.1, fun strands hstaffed => ?_⟩
  obtain ⟨moves, hmoves⟩ := h.2 strands hstaffed
  obtain ⟨more, hmore⟩ := h'.2 _ (hmoves.staffed hstaffed)
  refine ⟨moves ++ more, ?_⟩
  have hall := hmoves.append hmore
  rwa [h.1, ← List.map_append, ← List.map_append] at hall

theorem reaches_takeAll (bot : Bot τ) (before : List (Errand (World τ))) (t : Errand (World τ)) (world : World τ)
    (stops : Pause → Bool) (turns : Errand (World τ) → List Turn) :
    bot.Reaches before t world (t.takeAll stops (turns t) world) := by
  refine ⟨t.message_takeAll stops (turns t) world, fun strands hstaffed => ⟨(turns t).map (.turn before.length stops), ?_⟩⟩
  rw [List.map_map]
  exact leads_takeAll bot hstaffed stops (turns t)

theorem exists_reaches_runAll (bot : Bot τ) (before : List (Errand (World τ))) (t : Errand (World τ)) (world : World τ)
    (stops : Pause → Bool) :
    ∃ reached, Errand.runAll stops [t] world = ([reached.1], reached.2) ∧ bot.Reaches before t world reached := by
  refine ⟨_, ?_, (((reaches_takeAll bot before t world stops fun _ => [.command]).trans
    (reaches_takeAll bot before _ _ stops Errand.passiveTurns)).trans
    (reaches_takeAll bot before _ _ stops fun _ => [.report])).trans
    (reaches_takeAll bot before _ _ Program.nowhere fun t => .command :: t.passiveTurns ++ [.report])⟩
  simp only [Errand.runAll, Errand.sweep, List.append_nil]

end

/-- The strands of the errand for a message make the records that handling the message makes. -/
theorem exists_leads_handle (bot : Bot τ) {before : List (Errand (World τ))} {m : Message} {world : World τ}
    (hstaffed : Staffed strands ⟨world, before ++ [bot.errand m]⟩) :
    ∃ (moves : List (Move (World τ))) (rest : Errand (World τ)),
      bot.Leads strands ⟨world, before ++ [bot.errand m]⟩ (moves.map .move) ⟨(bot.handle m world).2.1, before ++ [rest]⟩
        ((bot.handle m world).2.2.map (Strand.working m, ·)) := by
  obtain ⟨reached, hrun, -, hreached⟩ := bot.exists_reaches_runAll before (bot.errand m) world quiet
  obtain ⟨moves, hmoves⟩ := hreached strands hstaffed
  rw [handle_eq, hrun]
  exact ⟨moves, reached.1, hmoves⟩

theorem channel_of_mem_handle (bot : Bot τ) {m : Message} {world : World τ} {r : Record} (hr : r ∈ (bot.handle m world).2.2) :
    r.channel = m.channel := by
  have hstaffed : Staffed (Strands.atRest.run (bot.actsOf ⟨world, []⟩ (.arrive 0 m))) ⟨world, [] ++ [bot.errand m]⟩ :=
    (staffed_nil Strands.atRest world).next bot (.arrive 0 m)
  obtain ⟨moves, rest, hleads⟩ := bot.exists_leads_handle hstaffed
  have hmade := List.mem_map_of_mem (f := (Strand.working m, ·)) hr
  rw [← hleads.made] at hmade
  exact (Strands.of_mem_made (fun i => Strands.follows_run Strands.follows_atRest _ i) hmade).2

/-- A message that arrives in a strand is handled, and then the strand leaves off. -/
theorem exists_leads_message (hstaffed : Staffed strands w) (bot : Bot τ) (reader : ℕ) (m : Message) :
    ∃ (happenings : List (Happening (World τ))) (rest : Errand (World τ)),
      bot.Leads strands w happenings ⟨(bot.handle m w.state).2.1, w.errands ++ [rest]⟩
        ((bot.handle m w.state).2.2.map (Strand.working m, ·)) ∧
      happenings.filterMap Happening.arrival? = [(reader, m)] ∧
      strands.run (bot.acts w happenings) (.reader reader) = .resting (some m) := by
  have harrive : bot.Leads strands w [.arrive reader m] ⟨w.state, w.errands ++ [bot.errand m]⟩ [] := by
    refine ⟨rfl, ?_⟩
    rw [acts, acts, List.append_nil]
    exact made_arrival reader _ (bot.errand m)
  obtain ⟨moves, rest, hmoves⟩ := bot.exists_leads_handle (harrive.staffed hstaffed)
  have hleave : ∀ strands' : Strands Post, bot.Leads strands' ⟨(bot.handle m w.state).2.1, w.errands ++ [rest]⟩ [.leave reader]
      ⟨(bot.handle m w.state).2.1, w.errands ++ [rest]⟩ [] := fun _ => ⟨rfl, rfl⟩
  have hall := harrive.append (hmoves.append (hleave _))
  rw [List.nil_append, List.append_nil] at hall
  refine ⟨_, rest, hall, ?_, ?_⟩
  · have hnone : (moves.map Happening.move).filterMap Happening.arrival? = [] := by
      rw [List.filterMap_map]
      exact List.filterMap_eq_nil_iff.mpr fun _ _ => rfl
    rw [List.filterMap_append, List.filterMap_append, hnone]
    rfl
  · have hworking : strands.run (bot.acts w [.arrive reader m]) (.reader reader) = .working m := by
      rw [acts, acts, List.append_nil]
      exact run_arrival_reader reader _ (bot.errand m)
    rw [acts_append, Strands.run_append, harrive.after, acts_append, Strands.run_append]
    refine (Function.update_self ..).trans ?_
    rw [run_acts_moves_reader, hworking]
    rfl

end Bot
end ChatBot
