import Mathlib.Data.List.Induction
import Mathlib.Tactic.Linarith
import ChatBot.Feature.Chatter
import ChatBot.Program.Gather
import ChatBot.Proofs.Program.Advance
import ChatBot.Proofs.Program.Crowd

/-!
Unprompted chatter keeps its distance in time. Calls for chatter take turns in any order: one claims the time and asks the
service in its first turn, hears the reply and chooses a delay in its second, and notices the time again when the delay is over.
Whatever was noticed last is never before anything noticed earlier, so a claim that keeps its distance to it keeps it to all the
others.
-/
set_option autoImplicit false

namespace ChatBot

/-- A clock that is read exactly, in seconds. -/
instance : Instant ℚ where
  check _ := .ok ()
  secondsBetween start now := .ok ((now - start).num.tdiv (now - start).den)
  isWithin start now ms := decide ((now - start) * 1000 < ms)

namespace World

def OnTime (w : World ℚ) : Prop := (w.clock :: w.readings).Pairwise (· ≤ ·)

def times (w : World ℚ) : Option ℚ × ℚ × List ℚ := (w.lastChatter, w.clock, w.readings)

/-- Time may have passed, but nothing was noticed. -/
structure Passed (w w' : World ℚ) : Prop where
  lastChatter : w'.lastChatter = w.lastChatter
  clock : w.clock ≤ w'.clock
  onTime : w'.OnTime

/-- The time of chatter was noticed, at the next reading of the clock or after. -/
structure Noticed (w w' : World ℚ) : Prop where
  lastChatter : w'.lastChatter = some w'.clock
  clock : w.clock ≤ w'.clock
  reading : w.nextReading.1 ≤ w'.clock
  onTime : w'.OnTime

variable {w w' w₁ w₂ : World ℚ}

theorem lastChatter_of_times (h : w'.times = w.times) : w'.lastChatter = w.lastChatter := congrArg Prod.fst h

theorem clock_of_times (h : w'.times = w.times) : w'.clock = w.clock := congrArg (·.2.1) h

theorem OnTime.of_times (hw : w.OnTime) (h : w'.times = w.times) : w'.OnTime := by
  have hreadings : w'.readings = w.readings := congrArg (·.2.2) h
  rw [OnTime, clock_of_times h, hreadings]
  exact hw

theorem OnTime.passed_of_times (hw : w.OnTime) (h : w'.times = w.times) : w.Passed w' :=
  ⟨lastChatter_of_times h, (clock_of_times h).ge, hw.of_times h⟩

theorem Passed.of_times (h : w.Passed w₁) (htimes : w₂.times = w₁.times) : w.Passed w₂ :=
  ⟨(lastChatter_of_times htimes).trans h.lastChatter, (clock_of_times htimes).symm ▸ h.clock, h.onTime.of_times htimes⟩

theorem times_nextDraw (w : World ℚ) : w.nextDraw.2.times = w.times := by
  rw [nextDraw]
  split <;> rfl

theorem times_nextDocument (url : Text) (w : World ℚ) : (Service.nextDocument url w).2.times = w.times := by
  change w.nextReply.2.times = w.times
  rw [nextReply]
  split <;> rfl

theorem clock_nextReading (w : World ℚ) : w.nextReading.2.clock = w.nextReading.1 := by
  rw [nextReading]
  split <;> rfl

theorem OnTime.passed_nextReading (hw : w.OnTime) : w.Passed w.nextReading.2 := by
  rw [nextReading]
  split
  · exact ⟨rfl, le_rfl, hw⟩
  · rename_i now readings hreadings
    rw [OnTime, hreadings] at hw
    obtain ⟨hnow, hrest⟩ := List.pairwise_cons.mp hw
    exact ⟨rfl, hnow now List.mem_cons_self, hrest⟩

theorem OnTime.noticed (hw : w.OnTime) : w.Noticed w.nextReading.2.noticeChatter :=
  have hpassed := hw.passed_nextReading
  ⟨rfl, hpassed.clock, (clock_nextReading w).ge, hpassed.onTime⟩

theorem Noticed.of_times (h : w.Noticed w₁) (htimes : w₂.times = w₁.times) : w.Noticed w₂ := by
  have hclock := clock_of_times htimes
  exact ⟨(lastChatter_of_times htimes).trans (h.lastChatter.trans (congrArg some hclock.symm)), hclock ▸ h.clock,
    hclock ▸ h.reading, h.onTime.of_times htimes⟩

end World

open Program

/-- Whether something that a program does is a request to a service. -/
def IsRequest (o : Output) : Prop := ∃ url body timeout headers, o = .note (.request url body timeout headers)

/-- The program ends in its next turn, with this result. Meanwhile it asks for nothing and leaves the times alone. -/
def EndsQuietly {α : Type} (p : Program (World ℚ) α) (w : World ℚ) (result : Except Fault α) : Prop :=
  ∃ outputs w', (∀ stops, p.advance stops w = ⟨outputs, w', .ended result⟩) ∧ (∀ o ∈ outputs, ¬ IsRequest o) ∧
    w'.times = w.times

namespace Service
variable {w : World ℚ}

theorem exists_endsQuietly_drawWithin (low high : ℕ) : ∃ result, EndsQuietly (drawWithin low high) w result := by
  let n := low + w.nextDraw.1 % (high - low + 1)
  exact ⟨.ok n, [.note (.draw (.within low high n))], _, fun _ => rfl, by simp [IsRequest], World.times_nextDraw w⟩

theorem exists_endsQuietly_drawChoice (items : List Text) : ∃ topic, EndsQuietly (drawChoice items) w (.ok topic) := by
  rw [drawChoice]
  split
  · exact ⟨none, [], w, fun _ => rfl, by simp, rfl⟩
  · let place := w.nextDraw.1 % items.length
    exact ⟨items[place]?, [.note (.draw (.choice items place))], _, fun _ => rfl, by simp [IsRequest],
      World.times_nextDraw w⟩

end Service

theorem exists_endsQuietly_bind {α β : Type} {p : Program (World ℚ) α} {f : α → Program (World ℚ) β} {w : World ℚ}
    (hp : ∃ result, EndsQuietly p w result) (hf : ∀ a w', ∃ result, EndsQuietly (f a) w' result) :
    ∃ result, EndsQuietly (p >>= f) w result := by
  obtain ⟨result, first, w₁, hp, hfirst, htimes₁⟩ := hp
  cases result with
  | error fault => exact ⟨.error fault, first, w₁, fun stops => advance_bind_of_failed (hp stops) f, hfirst, htimes₁⟩
  | ok a =>
    obtain ⟨result, second, w₂, hf, hsecond, htimes₂⟩ := hf a w₁
    refine ⟨result, first ++ second, w₂, fun stops => ?_, ?_, htimes₂.trans htimes₁⟩
    · rw [advance_bind_of_ended (hp stops), hf stops, Advance.following]
    · intro o ho
      exact (List.mem_append.mp ho).elim (hfirst o) (hsecond o)

theorem EndsQuietly.during {α : Type} {p : Program (World ℚ) α} {w : World ℚ} {result : Except Fault α}
    (h : EndsQuietly p w result) (activity : Activity) : EndsQuietly (p.during activity) w (result.mapError (.during activity)) := by
  obtain ⟨outputs, w', hp, hrest⟩ := h
  refine ⟨outputs, w', fun stops => ?_, hrest⟩
  rw [advance_during, hp stops]
  rfl

theorem endsQuietly_ofExcept {α : Type} (result : Except Fault α) (w : World ℚ) : EndsQuietly (ofExcept result) w result :=
  ⟨[], w, fun stops => advance_ofExcept stops result w, by simp, rfl⟩

namespace Feature.Chatter
variable {ι : Type} (settings : Settings) {stops : Pause → Bool} {w : World ℚ}

/-! ## The decision -/

theorem exists_endsQuietly_chooseDelay (w : World ℚ) : ∃ result, EndsQuietly (chooseDelay settings) w result := by
  refine exists_endsQuietly_bind ?_ fun milliseconds w' => exists_endsQuietly_bind ⟨_, endsQuietly_ofExcept _ w'⟩
    fun _ w' => ⟨_, endsQuietly_ofExcept (.ok milliseconds) w'⟩
  rw [drawDelay]
  split
  · exact ⟨_, endsQuietly_ofExcept (.ok _) w⟩
  · exact exists_endsQuietly_bind (Service.exists_endsQuietly_drawWithin _ _) fun ceiling w' =>
      Service.exists_endsQuietly_drawWithin _ _

/-- What a claim does about a last piece of chatter: it reads the clock, and the rest depends on what was read. -/
theorem advance_claim_of_some {last : ℚ} (hlast : w.lastChatter = some last) :
    (claim settings : Program (World ℚ) Bool).advance stops w =
      (if decide ((w.nextReading.1 - last) * 1000 < settings.generateTimeout) then return false
        else do
          let n ← Service.drawThousandths
          if Decimal.ofInt n 3 ≤ settings.ignoreChance then return false
          else
            Service.noticeChatter
            return true : Program (World ℚ) Bool).advance stops w.nextReading.2 := by
  cases w
  cases hlast
  rfl

/-- A claim is never interrupted, and asks for nothing. It either notices the time, at a distance from the last chatter, or
leaves it. -/
theorem claim_cases (hw : w.OnTime) : ∃ outputs w' claimed,
    (∀ stops, (claim settings).advance stops w = ⟨outputs, w', .ended (.ok claimed)⟩) ∧ (∀ o ∈ outputs, ¬ IsRequest o) ∧
    (claimed = false ∧ w.Passed w' ∨ claimed = true ∧ w.Noticed w' ∧
      ∀ last ∈ w.lastChatter, settings.generateTimeout ≤ (w.nextReading.1 - last) * 1000) := by
  cases hlast : w.lastChatter with
  | none =>
    refine ⟨[], w.nextReading.2.noticeChatter, true, fun stops => ?_, by simp, .inr ⟨rfl, hw.noticed, by simp⟩⟩
    cases w
    cases hlast
    rfl
  | some last =>
    by_cases hearly : (w.nextReading.1 - last) * 1000 < settings.generateTimeout
    · refine ⟨[], w.nextReading.2, false, fun stops => ?_, by simp, .inl ⟨rfl, hw.passed_nextReading⟩⟩
      rw [advance_claim_of_some settings hlast, if_pos (decide_eq_true hearly)]
      rfl
    -- The bot draws whether it keeps quiet; if it does not, the clock is read again.
    have hdrawn : w.nextReading.2.nextDraw.2.times = w.nextReading.2.times := World.times_nextDraw _
    have hpassed := hw.passed_nextReading.of_times hdrawn
    have hlate : ¬ decide ((w.nextReading.1 - last) * 1000 < settings.generateTimeout) = true := by simpa using hearly
    by_cases hquiet : Decimal.ofInt (w.nextReading.2.nextDraw.1 % 1001 : ℕ) 3 ≤ settings.ignoreChance
    · refine ⟨[.note (.draw (.thousandths (w.nextReading.2.nextDraw.1 % 1001)))], w.nextReading.2.nextDraw.2, false,
        fun stops => ?_, by simp [IsRequest], .inl ⟨rfl, hpassed⟩⟩
      rw [advance_claim_of_some settings hlast, if_neg hlate]
      change (advance stops (if Decimal.ofInt _ 3 ≤ settings.ignoreChance then _ else _) _).following _ = _
      rw [if_pos hquiet]
      rfl
    · have hnoticed := hpassed.onTime.noticed
      have hclock : w.nextReading.2.nextDraw.2.clock = w.nextReading.1 :=
        (World.clock_of_times hdrawn).trans (World.clock_nextReading w)
      refine ⟨[.note (.draw (.thousandths (w.nextReading.2.nextDraw.1 % 1001)))],
        w.nextReading.2.nextDraw.2.nextReading.2.noticeChatter, true, fun stops => ?_, by simp [IsRequest],
        .inr ⟨rfl, ⟨hnoticed.lastChatter, hpassed.clock.trans hnoticed.clock, hclock ▸ hnoticed.clock, hnoticed.onTime⟩,
          fun t ht => ?_⟩⟩
      · rw [advance_claim_of_some settings hlast, if_neg hlate]
        change (advance stops (if Decimal.ofInt _ 3 ≤ settings.ignoreChance then _ else _) _).following _ = _
        rw [if_neg hquiet]
        rfl
      · obtain rfl := Option.some.inj ht
        exact not_lt.mp hearly

/-! ## Calls by their phases -/

def hear : Program (World ℚ) Text := do
  let answer ← (do
    let document ← Program.update (Service.nextDocument (address settings))
    (Program.ofExcept document).during .request).during .question
  (Program.ofExcept (answerText answer)).during .answer

def conclude (response : Text) : Program (World ℚ) (Option Text) := do
  Service.noticeChatter
  Program.record (.debug ("speak.generated response=" ++ Text.quote response))
  return some response

def deliver (text : Text) : Program (World ℚ) (Option Text) := do
  let milliseconds ← chooseDelay settings
  Program.record (.delay milliseconds)
  Program.yield .delay
  conclude (dress text)

def pursue (text : Text) : Program (World ℚ) (Option Text) := do
  let topic ← chooseTopic text
  let answer ← (fetch settings topic).during .chatter
  deliver settings answer

theorem generate_eq (text : Text) : (generate settings text : Program (World ℚ) (Option Text)) =
    claim settings >>= fun claimed => if claimed then pursue settings text else return none := rfl

/-- What a call goes through: its claim, its request, its delay, and its end. -/
inductive Phase where
  | fresh
  | asking
  | waiting (response : Text)
  | ended (result : Except Fault (Option Text))

def Phase.program (text : Text) : Phase → Program (World ℚ) (Option Text)
  | fresh => generate settings text
  | asking => (hear settings).during .chatter >>= deliver settings
  | waiting response => conclude response
  | ended result => Program.ofExcept result

/-- What a call does in one turn. -/
inductive Step (w : World ℚ) : Phase → List Output → World ℚ → Phase → Prop
  | refrain {outputs : List Output} {w' : World ℚ} : ((claim settings).run w).1 = .ok false → w.Passed w' →
      (∀ o ∈ outputs, ¬ IsRequest o) → Step w .fresh outputs w' (.ended (.ok none))
  | ask {outputs : List Output} {w' : World ℚ} : ((claim settings).run w).1 = .ok true → w.Noticed w' →
      (∀ last ∈ w.lastChatter, settings.generateTimeout ≤ (w.nextReading.1 - last) * 1000) →
      (∃ o ∈ outputs, IsRequest o) → Step w .fresh outputs w' .asking
  | fail {outputs : List Output} {w' : World ℚ} (fault : Fault) : w.Passed w' → (∀ o ∈ outputs, ¬ IsRequest o) →
      Step w .asking outputs w' (.ended (.error fault))
  | wait {outputs : List Output} {w' : World ℚ} (response : Text) : w.Passed w' → (∀ o ∈ outputs, ¬ IsRequest o) →
      Step w .asking outputs w' (.waiting response)
  | finish {outputs : List Output} {w' : World ℚ} {response : Text} : w.Noticed w' → (∀ o ∈ outputs, ¬ IsRequest o) →
      Step w (.waiting response) outputs w' (.ended (.ok (some response)))
  | idle (result : Except Fault (Option Text)) : w.OnTime → Step w (.ended result) [] w (.ended result)

/-- The next turn of a call in this phase is such a step. -/
def Steps (text : Text) (phase : Phase) (w : World ℚ) : Prop :=
  ∃ outputs w' next, (phase.program settings text).slice everywhere w = ⟨outputs, w', next.program settings text⟩ ∧
    Step settings w phase outputs w' next

theorem run_claim {first : List Output} {w₁ : World ℚ} {claimed : Bool}
    (hclaim : (claim settings).advance nowhere w = ⟨first, w₁, .ended (.ok claimed)⟩) :
    ((claim settings).run w).1 = .ok claimed := by
  rw [Program.run, slice_eq_advance, hclaim]
  rfl

/-- A request is made as soon as a topic is known, and the reply is waited for. -/
theorem advance_fetch (topic : Option Text) (w : World ℚ) : ∃ outputs w',
    (fetch settings topic).advance everywhere w = ⟨outputs, w', .stopped (hear settings)⟩ ∧ (∃ o ∈ outputs, IsRequest o) ∧
      w'.times = w.times := by
  let fewest := 1 + w.nextDraw.1 % (3 - 1 + 1)
  let asked : Note :=
    .request (address settings) (question fewest topic) (.float settings.httpTimeout) Service.agentHeader
  refine ⟨[.note (.draw (.within 1 3 fewest)), .note asked], w.nextDraw.2, rfl, ⟨.note asked, ?_, ?_⟩,
    World.times_nextDraw w⟩
  · simp
  · exact ⟨_, _, _, _, rfl⟩

theorem steps_fresh (text : Text) (hw : w.OnTime) : Steps settings text .fresh w := by
  obtain ⟨first, w₁, claimed, hclaim, hfirst, ⟨rfl, hpassed⟩ | ⟨rfl, hnoticed, hlate⟩⟩ := claim_cases settings hw
  · refine ⟨first ++ [], w₁, .ended (.ok none), ?_, .refrain (run_claim settings (hclaim nowhere)) hpassed (by simpa)⟩
    rw [Phase.program, slice_eq_advance, generate_eq, advance_bind_of_ended (hclaim everywhere)]
    rfl
  · obtain ⟨topic, second, w₂, hchoose, -, htimes₂⟩ :=
      Service.exists_endsQuietly_drawChoice (w := w₁) ((Text.words text).filter isTopic)
    obtain ⟨third, w₃, hfetch, ⟨o, ho, hrequest⟩, htimes₃⟩ := advance_fetch settings topic w₂
    have hduring : ((fetch settings topic).during .chatter).advance everywhere w₂ =
        ⟨third, w₃, .stopped ((hear settings).during .chatter)⟩ := by
      rw [advance_during, hfetch]
      rfl
    refine ⟨first ++ (second ++ third), w₃, .asking, ?_, .ask (run_claim settings (hclaim nowhere))
      (hnoticed.of_times (htimes₃.trans htimes₂)) hlate ⟨o, by simp [ho], hrequest⟩⟩
    have hpursue : (pursue settings text).advance everywhere w₁ =
        ⟨second ++ third, w₃, .stopped ((hear settings).during .chatter >>= deliver settings)⟩ := by
      rw [pursue, chooseTopic, advance_bind_of_ended (hchoose everywhere), advance_bind_of_stopped hduring,
        Advance.following]
    rw [Phase.program, slice_eq_advance, generate_eq, advance_bind_of_ended (hclaim everywhere), if_pos rfl, hpursue]
    rfl

theorem exists_endsQuietly_hear (w : World ℚ) : ∃ result, EndsQuietly ((hear settings).during .chatter) w result := by
  have hreply : EndsQuietly (Program.update (Service.nextDocument (address settings))) w
      (.ok (Service.nextDocument (address settings) w).1) :=
    ⟨[], _, fun _ => rfl, by simp, World.times_nextDocument (address settings) w⟩
  obtain ⟨meaning, hmeaning⟩ := exists_endsQuietly_bind ⟨_, hreply⟩ fun document w' =>
    ⟨_, (endsQuietly_ofExcept document w').during .request⟩
  obtain ⟨result, hhear⟩ := exists_endsQuietly_bind ⟨_, hmeaning.during .question⟩ fun answer w' =>
    ⟨_, (endsQuietly_ofExcept (answerText answer) w').during .answer⟩
  exact ⟨_, hhear.during .chatter⟩

theorem steps_asking (text : Text) (hw : w.OnTime) : Steps settings text .asking w := by
  obtain ⟨result, first, w₁, hhear, hfirst, htimes₁⟩ := exists_endsQuietly_hear settings w
  cases result with
  | error fault =>
    refine ⟨first, w₁, .ended (.error fault), ?_, .fail fault (hw.passed_of_times htimes₁) hfirst⟩
    rw [Phase.program, slice_eq_advance, advance_bind_of_failed (hhear everywhere)]
    rfl
  | ok answer =>
    obtain ⟨result, second, w₂, hdelay, hsecond, htimes₂⟩ := exists_endsQuietly_chooseDelay settings w₁
    have hpassed := hw.passed_of_times (htimes₂.trans htimes₁)
    cases result with
    | error fault =>
      refine ⟨first ++ second, w₂, .ended (.error fault), ?_, .fail fault hpassed ?_⟩
      · rw [Phase.program, slice_eq_advance, advance_bind_of_ended (hhear everywhere), deliver,
          advance_bind_of_failed (hdelay everywhere)]
        rfl
      · exact fun o ho => (List.mem_append.mp ho).elim (hfirst o) (hsecond o)
    | ok milliseconds =>
      refine ⟨first ++ (second ++ [.note (.delay milliseconds)]), w₂, .waiting (dress answer), ?_, .wait _ hpassed ?_⟩
      · rw [Phase.program, slice_eq_advance, advance_bind_of_ended (hhear everywhere), deliver,
          advance_bind_of_ended (hdelay everywhere)]
        rfl
      · intro o ho
        rcases List.mem_append.mp ho with ho | ho
        · exact hfirst o ho
        rcases List.mem_append.mp ho with ho | ho
        · exact hsecond o ho
        rintro ⟨_, _, _, _, rfl⟩
        cases List.mem_singleton.mp ho

theorem steps_waiting (text response : Text) (hw : w.OnTime) : Steps settings text (.waiting response) w := by
  refine ⟨_, _, .ended (.ok (some response)), rfl, .finish hw.noticed ?_⟩
  rintro o ho ⟨_, _, _, _, rfl⟩
  cases List.mem_singleton.mp ho

theorem steps_ended (text : Text) (result : Except Fault (Option Text)) (hw : w.OnTime) :
    Steps settings text (.ended result) w := by
  refine ⟨[], w, .ended result, ?_, .idle result hw⟩
  cases result <;> rfl

theorem steps_of_onTime (text : Text) (phase : Phase) (hw : w.OnTime) : Steps settings text phase w := by
  cases phase with
  | fresh => exact steps_fresh settings text hw
  | asking => exact steps_asking settings text hw
  | waiting response => exact steps_waiting settings text response hw
  | ended result => exact steps_ended settings text result hw

namespace Step
variable {settings} {phase next : Phase} {outputs : List Output} {w' : World ℚ}

theorem ne_fresh (h : Step settings w phase outputs w' next) : next ≠ .fresh := by
  cases h <;> simp

theorem onTime (h : Step settings w phase outputs w' next) : w'.OnTime := by
  cases h with
  | refrain _ hpassed _ => exact hpassed.onTime
  | ask _ hnoticed _ _ => exact hnoticed.onTime
  | fail _ hpassed _ => exact hpassed.onTime
  | wait _ hpassed _ => exact hpassed.onTime
  | finish hnoticed _ => exact hnoticed.onTime
  | idle _ hw => exact hw

theorem passed_or_noticed (h : Step settings w phase outputs w' next) : w.Passed w' ∨ w.Noticed w' := by
  cases h with
  | refrain _ hpassed _ => exact .inl hpassed
  | ask _ hnoticed _ _ => exact .inr hnoticed
  | fail _ hpassed _ => exact .inl hpassed
  | wait _ hpassed _ => exact .inl hpassed
  | finish hnoticed _ => exact .inr hnoticed
  | idle _ hw => exact .inl ⟨rfl, le_rfl, hw⟩

/-- A call that decides to ask does so at once, and at a distance from what was noticed last. -/
theorem of_decision (h : Step settings w .fresh outputs w' next) (hclaim : ((claim settings).run w).1 = .ok true) :
    w.Noticed w' ∧ (∀ last ∈ w.lastChatter, settings.generateTimeout ≤ (w.nextReading.1 - last) * 1000) ∧
      ∃ o ∈ outputs, IsRequest o := by
  cases h with
  | refrain hquiet _ _ => cases hquiet.symm.trans hclaim
  | ask _ hnoticed hlate hrequest => exact ⟨hnoticed, hlate, hrequest⟩

theorem decision_of_request (h : Step settings w phase outputs w' next) (hrequest : ∃ o ∈ outputs, IsRequest o) :
    phase = .fresh ∧ ((claim settings).run w).1 = .ok true := by
  obtain ⟨o, ho, hrequest⟩ := hrequest
  cases h with
  | refrain _ _ hnone => exact absurd hrequest (hnone o ho)
  | ask hclaim _ _ _ => exact ⟨rfl, hclaim⟩
  | fail _ _ hnone => exact absurd hrequest (hnone o ho)
  | wait _ _ hnone => exact absurd hrequest (hnone o ho)
  | finish _ hnone => exact absurd hrequest (hnone o ho)
  | idle _ _ => cases ho

/-- A call that gives its piece of chatter notices the time. -/
theorem noticed_of_completion {text response : Text} (h : Step settings w phase outputs w' next)
    (hbefore : (phase.program settings text).hasEnded = false)
    (hafter : (next.program settings text).ending? = some (.ok (some response))) : w.Noticed w' := by
  cases h with
  | refrain _ _ _ => cases hafter
  | ask _ hnoticed _ _ => exact hnoticed
  | fail _ _ _ => cases hafter
  | wait _ _ _ => cases hafter
  | finish hnoticed _ => exact hnoticed
  | idle result _ => cases result <;> cases hbefore

end Step

/-! ## Calls that take turns -/

/-- Calls for chatter about some texts, and the world in which they begin. -/
structure Session (ι : Type) where
  settings : Settings
  texts : ι → Text
  world : World ℚ

namespace Session
variable {ι : Type} [DecidableEq ι] (s : Session ι)

def after (course : List ι) : Crowd ι (World ℚ) (Option Text) :=
  Crowd.run everywhere ⟨s.world, fun i => generate s.settings (s.texts i)⟩ course

def turn (course : List ι) (i : ι) : Slice (World ℚ) (Option Text) := (s.after course).next everywhere i

/-- What the clock shows when it is next read after a course. -/
def timeBefore (course : List ι) : ℚ := (s.after course).state.nextReading.1

/-- What the clock showed when it was last read in a call's turn or before. -/
def timeAfter (course : List ι) (i : ι) : ℚ := (s.turn course i).state.clock

/-- With this turn the call begins, and it decides to make a request. -/
def Decides (course : List ι) (i : ι) : Prop :=
  i ∉ course ∧ ((claim s.settings).run (s.after course).state).1 = .ok true

def Completes (course : List ι) (i : ι) : Prop :=
  ((s.after course).programs i).hasEnded = false ∧ ∃ response, (s.turn course i).rest.ending? = some (.ok (some response))

def Requests (course : List ι) (i : ι) : Prop := ∃ o ∈ (s.turn course i).outputs, IsRequest o

/-- What holds after the turns of a course: nothing was noticed later than what was noticed last. -/
structure Sound (course : List ι) (phases : ι → Phase) : Prop where
  programs : ∀ i, (s.after course).programs i = (phases i).program s.settings (s.texts i)
  fresh_iff : ∀ i, phases i = .fresh ↔ i ∉ course
  onTime : (s.after course).state.OnTime
  noticed : ∀ earlier i between, course = earlier ++ i :: between → s.Decides earlier i ∨ s.Completes earlier i →
    s.timeAfter earlier i ≤ (s.after course).state.clock ∧
      ∃ last ∈ (s.after course).state.lastChatter, s.timeAfter earlier i ≤ last

variable {s} {course : List ι} {phases : ι → Phase}

theorem after_concat (course : List ι) (i : ι) : s.after (course ++ [i]) = (s.after course).turn everywhere i :=
  Crowd.run_concat ..

theorem Sound.exists_step (hs : s.Sound course phases) (i : ι) : ∃ next,
    (s.turn course i).rest = next.program s.settings (s.texts i) ∧
    Step s.settings (s.after course).state (phases i) (s.turn course i).outputs (s.turn course i).state next := by
  obtain ⟨outputs, w', next, hslice, hstep⟩ := steps_of_onTime s.settings (s.texts i) (phases i) hs.onTime
  have hturn : s.turn course i = ⟨outputs, w', next.program s.settings (s.texts i)⟩ := by
    rw [turn, Crowd.next, hs.programs, hslice]
  rw [hturn]
  exact ⟨next, rfl, hstep⟩

theorem Sound.noticed_of_turn (hs : s.Sound course phases) {i : ι} (h : s.Decides course i ∨ s.Completes course i) :
    (s.after course).state.Noticed (s.turn course i).state := by
  obtain ⟨next, hrest, hstep⟩ := hs.exists_step i
  rcases h with ⟨hi, hclaim⟩ | ⟨hbefore, response, hafter⟩
  · rw [(hs.fresh_iff i).mpr hi] at hstep
    exact (hstep.of_decision hclaim).1
  · rw [hs.programs] at hbefore
    rw [hrest] at hafter
    exact hstep.noticed_of_completion hbefore hafter

theorem Sound.step (hs : s.Sound course phases) (i : ι) : ∃ phases', s.Sound (course ++ [i]) phases' := by
  obtain ⟨next, hrest, hstep⟩ := hs.exists_step i
  have hstate : (s.after (course ++ [i])).state = (s.turn course i).state := congrArg Crowd.state (after_concat course i)
  refine ⟨Function.update phases i next, fun j => ?_, fun j => ?_, hstate ▸ hstep.onTime, ?_⟩
  · rw [after_concat]
    by_cases hj : j = i
    · subst hj
      rw [Crowd.programs_turn_self, Function.update_self]
      exact hrest
    · rw [Crowd.programs_turn_of_ne everywhere _ hj, Function.update_of_ne hj, hs.programs]
  · by_cases hj : j = i
    · subst hj
      simp [hstep.ne_fresh]
    · simp [hj, hs.fresh_iff]
  · intro earlier j between hcourse hacts
    rw [hstate]
    rcases moment_concat hcourse with ⟨rfl, rfl⟩ | ⟨shorter, rfl⟩
    · exact ⟨le_rfl, _, (hs.noticed_of_turn hacts).lastChatter, le_rfl⟩
    · obtain ⟨hclock, last, hlast, hle⟩ := hs.noticed earlier j shorter rfl hacts
      rcases hstep.passed_or_noticed with hpassed | hnoticed
      · exact ⟨hclock.trans hpassed.clock, last, hpassed.lastChatter ▸ hlast, hle⟩
      · have hlater := hclock.trans hnoticed.clock
        exact ⟨hlater, _, hnoticed.lastChatter, hlater⟩

theorem exists_sound (hw : s.world.OnTime) (course : List ι) : ∃ phases, s.Sound course phases := by
  induction course using List.reverseRecOn with
  | nil => exact ⟨fun _ => .fresh, fun i => rfl, by simp, hw, by simp⟩
  | append_singleton course i ih =>
    obtain ⟨phases, hs⟩ := ih
    exact hs.step i

/-- Calls take turns in any order, with any replies, draws and texts, and the clock never goes back. A call that decides to make
a request finds that enough time has gone by since every earlier decision, also one whose request failed, and since every
earlier piece of chatter; with either of these the time is noticed. Requests are made with such decisions, and by no other
call. -/
theorem cooldown_respected (s : Session ι) (hclock : (s.world.clock :: s.world.readings).Pairwise (· ≤ ·)) :
    (∀ earlier i between j, s.Decides (earlier ++ i :: between) j → s.Decides earlier i ∨ s.Completes earlier i →
      s.settings.generateTimeout ≤ (s.timeBefore (earlier ++ i :: between) - s.timeAfter earlier i) * 1000) ∧
    (∀ course i, s.Decides course i ∨ s.Completes course i →
      s.timeBefore course ≤ s.timeAfter course i ∧
      (s.after (course ++ [i])).state.lastChatter = some (s.timeAfter course i)) ∧
    ∀ course i, s.Requests course i ↔ s.Decides course i := by
  refine ⟨?_, fun course i hacts => ?_, fun course i => ?_⟩
  · intro earlier i between j ⟨hj, hclaim⟩ hacts
    obtain ⟨phases, hs⟩ := exists_sound hclock (earlier ++ i :: between)
    obtain ⟨next, -, hstep⟩ := hs.exists_step j
    rw [(hs.fresh_iff j).mpr hj] at hstep
    obtain ⟨-, last, hlast, hle⟩ := hs.noticed earlier i between rfl hacts
    have hlate := (hstep.of_decision hclaim).2.1 last hlast
    rw [timeBefore]
    linarith
  · obtain ⟨phases, hs⟩ := exists_sound hclock course
    have hnoticed := hs.noticed_of_turn hacts
    exact ⟨hnoticed.reading, (congrArg (·.state.lastChatter) (after_concat course i)).trans hnoticed.lastChatter⟩
  · obtain ⟨phases, hs⟩ := exists_sound hclock course
    obtain ⟨next, -, hstep⟩ := hs.exists_step i
    constructor
    · intro hrequest
      obtain ⟨hfresh, hclaim⟩ := hstep.decision_of_request hrequest
      exact ⟨(hs.fresh_iff i).mp hfresh, hclaim⟩
    · rintro ⟨hi, hclaim⟩
      rw [(hs.fresh_iff i).mpr hi] at hstep
      exact (hstep.of_decision hclaim).2.2

/-- The service is down when it is asked ten seconds after the start. Half a second later it is not asked again. -/
theorem cooldown_respected_after_failure :
    let s : Session Bool := ⟨Settings.standard, fun _ => [],
      { files := .empty, clock := 0, replies := [.answer 503 none []], draws := [],
        shelf := ⟨Storage.FilePath.ofText "store.json", [], false⟩, lastChatter := none, readings := [10, 21 / 2] }⟩
    s.Decides [] true ∧ (s.turn [true] true).rest.ending?.map Except.isOk = some false ∧
      ¬ s.Requests [true, true] false := by
  intro s
  have hclock : (s.world.clock :: s.world.readings).Pairwise (· ≤ ·) := by
    norm_num [s]
  have hdecides : s.Decides [] true := ⟨by simp, rfl⟩
  obtain ⟨hlate, -, hrequests⟩ := cooldown_respected s hclock
  have hfailed : (s.turn [true] true).rest.ending?.map Except.isOk = some false := by decide +kernel
  refine ⟨hdecides, hfailed, fun hrequest => ?_⟩
  have hfar := hlate [] true [true] false ((hrequests _ _).mp hrequest) (.inl hdecides)
  have hbefore : s.timeBefore [true, true] = 21 / 2 := by decide +kernel
  have hafter : s.timeAfter [] true = 10 := by decide +kernel
  have htimeout : s.settings.generateTimeout = 1000 := rfl
  rw [List.nil_append, hbefore, hafter, htimeout] at hfar
  norm_num at hfar

end Session

end Feature.Chatter
end ChatBot
