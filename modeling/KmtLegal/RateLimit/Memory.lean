import KmtLegal.Database
import KmtLegal.Relational.Run

/-!
# The rate limiter in memory

`MemoryRateLimiter` counts the calls of each key in buckets and now and then drops the buckets that are
over.  A bucket that is over is never looked at again when the clock does not go back, so nobody sees
which are dropped: the limiter is one counter for each key.
-/

namespace KmtLegal

open Relational

/-- `RateLimitRule`. -/
structure RateLimitRule where
  windowMs : Time
  max : ℕ

/-- `RateLimitResult`. -/
structure RateLimitResult where
  allowed : Bool
  limit : ℕ
  remaining : ℕ
  resetAt : Time
  deriving DecidableEq

/-- `Bucket`. -/
structure RateLimitBucket where
  count : ℕ
  resetAt : Time

/-- The fields of a `MemoryRateLimiter` that change; the map of buckets is a function. -/
structure MemoryRateLimiter where
  buckets : String → Option RateLimitBucket := fun _ ↦ none
  lastPrunedAt : Time := 0

/-- The arguments of `check`. -/
structure RateLimitCall where
  key : String
  now : Time
  deriving DecidableEq

/-- `current && current.resetAt > now ? current : undefined`. -/
def liveBucket (now : Time) (current : Option RateLimitBucket) : Option RateLimitBucket :=
  current.filter fun bucket ↦ bucket.resetAt > now

namespace RateLimitRule

/-- The bucket `check` counts a call in: the current one, or a new one if that is over. -/
def count (rule : RateLimitRule) (current : Option RateLimitBucket) (now : Time) : RateLimitBucket where
  resetAt := match liveBucket now current with
    | some bucket => bucket.resetAt
    | none => now + rule.windowMs
  count := match liveBucket now current with
    | some bucket => bucket.count + 1
    | none => 1

/-- What `check` returns about the bucket it has counted in. -/
def result (rule : RateLimitRule) (bucket : RateLimitBucket) : RateLimitResult where
  allowed := bucket.count ≤ rule.max
  limit := rule.max
  remaining := rule.max - bucket.count
  resetAt := bucket.resetAt

/-- `pruneExpired(now)`. -/
def pruneExpired (rule : RateLimitRule) (limiter : MemoryRateLimiter) (now : Time) :
    MemoryRateLimiter :=
  let pruneEveryMs := min rule.windowMs 60000
  if now - limiter.lastPrunedAt < pruneEveryMs then limiter
  else {
    buckets := fun key ↦ (limiter.buckets key).filter fun bucket ↦ ¬bucket.resetAt ≤ now
    lastPrunedAt := now }

/-- `check(key, now)` without the pruning. -/
def checkUnpruned (rule : RateLimitRule) (limiter : MemoryRateLimiter) (call : RateLimitCall) :
    MemoryRateLimiter × RateLimitResult :=
  let bucket := rule.count (limiter.buckets call.key) call.now
  ({ limiter with buckets := Function.update limiter.buckets call.key (some bucket) },
    rule.result bucket)

/-- `check(key, now)`. -/
def check (rule : RateLimitRule) (limiter : MemoryRateLimiter) (call : RateLimitCall) :
    MemoryRateLimiter × RateLimitResult :=
  rule.checkUnpruned (rule.pruneExpired limiter call.now) call

/-- The limiter after some calls. -/
def after (rule : RateLimitRule) (limiter : MemoryRateLimiter) (calls : List RateLimitCall) :
    MemoryRateLimiter :=
  run (fun limiter call ↦ (rule.check limiter call).1) limiter calls

/-- What some calls return. -/
def results (rule : RateLimitRule) (limiter : MemoryRateLimiter) (calls : List RateLimitCall) :
    List RateLimitResult :=
  responses (fun limiter call ↦ (rule.check limiter call).1)
    (fun limiter call ↦ (rule.check limiter call).2) limiter calls

/-- What they return from a limiter that never prunes. -/
def resultsUnpruned (rule : RateLimitRule) (limiter : MemoryRateLimiter)
    (calls : List RateLimitCall) : List RateLimitResult :=
  responses (fun limiter call ↦ (rule.checkUnpruned limiter call).1)
    (fun limiter call ↦ (rule.checkUnpruned limiter call).2) limiter calls

end RateLimitRule

/-- The clock does not go back. -/
def ClockForward (calls : List RateLimitCall) : Prop := calls.Pairwise fun c c' ↦ c.now ≤ c'.now

/-! ## Buckets that are over -/

section

variable {now now' : Time} {b b' : Option RateLimitBucket} (rule : RateLimitRule)

theorem liveBucket_some {bucket : RateLimitBucket} (h : now < bucket.resetAt) :
    liveBucket now (some bucket) = some bucket := by
  rw [liveBucket, Option.filter_some, if_pos (decide_eq_true h)]

/-- A bucket that is over stays over. -/
theorem liveBucket_liveBucket (h : now ≤ now') :
    liveBucket now' (liveBucket now b) = liveBucket now' b := by
  cases b with
  | none => rfl
  | some bucket => grind [liveBucket]

/-- Two buckets that are counted alike. -/
theorem RateLimitRule.count_congr (h : liveBucket now b = liveBucket now b') :
    rule.count b now = rule.count b' now := by
  rw [RateLimitRule.count, RateLimitRule.count, h]

/-- Pruning leaves a bucket as it is, or without what is over. -/
theorem RateLimitRule.pruneExpired_buckets (limiter : MemoryRateLimiter) (now : Time)
    (key : String) :
    (rule.pruneExpired limiter now).buckets key = limiter.buckets key ∨
      (rule.pruneExpired limiter now).buckets key = liveBucket now (limiter.buckets key) := by
  simp only [pruneExpired]
  split_ifs
  · exact .inl rfl
  · simp only [not_le]
    exact .inr rfl

theorem RateLimitRule.liveBucket_pruneExpired (limiter : MemoryRateLimiter) (key : String)
    (h : now ≤ now') :
    liveBucket now' ((rule.pruneExpired limiter now).buckets key) =
      liveBucket now' (limiter.buckets key) := by
  obtain hbuckets | hbuckets := rule.pruneExpired_buckets limiter now key
  · rw [hbuckets]
  · rw [hbuckets, liveBucket_liveBucket h]

end

/-! ## Pruning is not seen -/

/-- Two limiters with the same buckets, now and later, but for those that are over. -/
def SameLive (now : Time) (limiter limiter' : MemoryRateLimiter) : Prop :=
  ∀ key now', now ≤ now' →
    liveBucket now' (limiter.buckets key) = liveBucket now' (limiter'.buckets key)

section

variable {now : Time} {limiter limiter' : MemoryRateLimiter} {rule : RateLimitRule}
  {calls : List RateLimitCall}

theorem ClockForward.tail {call : RateLimitCall} (h : ClockForward (call :: calls)) :
    ClockForward calls := (List.pairwise_cons.mp h).2

theorem ClockForward.le {call : RateLimitCall} (h : ClockForward (call :: calls)) :
    ∀ c ∈ calls, call.now ≤ c.now := (List.pairwise_cons.mp h).1

theorem SameLive.check (h : SameLive now limiter limiter') (rule : RateLimitRule)
    {call : RateLimitCall} (hnow : now ≤ call.now) :
    (rule.check limiter call).2 = (rule.checkUnpruned limiter' call).2 ∧
      SameLive call.now (rule.check limiter call).1 (rule.checkUnpruned limiter' call).1 := by
  have hcount : rule.count ((rule.pruneExpired limiter call.now).buckets call.key) call.now =
      rule.count (limiter'.buckets call.key) call.now :=
    rule.count_congr ((rule.liveBucket_pruneExpired _ _ le_rfl).trans (h _ _ hnow))
  simp only [RateLimitRule.check, RateLimitRule.checkUnpruned, hcount, true_and]
  intro key now' hnow'
  by_cases hkey : key = call.key
  · subst hkey
    simp only [Function.update_self]
  · simp only [Function.update_of_ne hkey]
    rw [rule.liveBucket_pruneExpired _ _ hnow', h _ _ (hnow.trans hnow')]

theorem SameLive.results (h : SameLive now limiter limiter') (hforward : ClockForward calls)
    (hnow : ∀ c ∈ calls, now ≤ c.now) :
    rule.results limiter calls = rule.resultsUnpruned limiter' calls := by
  induction calls generalizing now limiter limiter' with
  | nil => rfl
  | cons call calls ih =>
    obtain ⟨hresult, hlive⟩ := h.check rule (hnow call List.mem_cons_self)
    rw [RateLimitRule.results, RateLimitRule.resultsUnpruned, responses, responses, hresult]
    exact congrArg _ (ih hlive hforward.tail hforward.le)

end

/-! ## One counter for each key -/

/-- The calls for one key. -/
def callsFor (key : String) (calls : List RateLimitCall) : List RateLimitCall :=
  calls.filter fun call ↦ call.key = key

/-- The calls for one key with what they were answered. -/
def answersFor (key : String) (answers : List (RateLimitCall × RateLimitResult)) :
    List (RateLimitCall × RateLimitResult) :=
  answers.filter fun answer ↦ answer.1.key = key

namespace RateLimitRule

/-- Calls with what they are answered. -/
def answers (rule : RateLimitRule) (limiter : MemoryRateLimiter) (calls : List RateLimitCall) :
    List (RateLimitCall × RateLimitResult) :=
  calls.zip (rule.results limiter calls)

/-- What the counter of one key answers. -/
def keyAnswers (rule : RateLimitRule) :
    Option RateLimitBucket → List RateLimitCall → List (RateLimitCall × RateLimitResult)
  | _, [] => []
  | current, call :: calls =>
    let bucket := rule.count current call.now
    (call, rule.result bucket) :: keyAnswers rule (some bucket) calls

end RateLimitRule

section

variable {rule : RateLimitRule} {key : String} {calls : List RateLimitCall}

theorem answers_cons (limiter : MemoryRateLimiter) (call : RateLimitCall)
    (calls : List RateLimitCall) :
    rule.answers limiter (call :: calls) =
      (call, (rule.check limiter call).2) :: rule.answers (rule.check limiter call).1 calls := rfl

theorem answers_append (limiter : MemoryRateLimiter) (before calls : List RateLimitCall) :
    rule.answers limiter (before ++ calls) =
      rule.answers limiter before ++ rule.answers (rule.after limiter before) calls := by
  induction before generalizing limiter with
  | nil => rfl
  | cons call before ih => exact congrArg _ (ih _)

theorem length_answers (limiter : MemoryRateLimiter) (calls : List RateLimitCall) :
    (rule.answers limiter calls).length = calls.length := by
  induction calls generalizing limiter with
  | nil => rfl
  | cons call calls ih => rw [answers_cons, List.length_cons, ih, List.length_cons]

theorem keyAnswers_congr {b b' : Option RateLimitBucket}
    (h : ∀ c ∈ calls, liveBucket c.now b = liveBucket c.now b') :
    rule.keyAnswers b calls = rule.keyAnswers b' calls := by
  cases calls with
  | nil => rfl
  | cons call calls =>
    rw [RateLimitRule.keyAnswers, RateLimitRule.keyAnswers,
      rule.count_congr (h call List.mem_cons_self)]

theorem check_result (limiter : MemoryRateLimiter) (call : RateLimitCall) :
    (rule.check limiter call).2 = rule.result (rule.count (limiter.buckets call.key) call.now) :=
  congrArg rule.result (rule.count_congr (rule.liveBucket_pruneExpired _ _ le_rfl))

theorem check_buckets_self (limiter : MemoryRateLimiter) (call : RateLimitCall) :
    (rule.check limiter call).1.buckets call.key =
      some (rule.count (limiter.buckets call.key) call.now) := by
  rw [← rule.count_congr (rule.liveBucket_pruneExpired limiter call.key le_rfl)]
  exact Function.update_self ..

theorem check_buckets_of_ne (limiter : MemoryRateLimiter) {call : RateLimitCall}
    (h : key ≠ call.key) :
    (rule.check limiter call).1.buckets key = (rule.pruneExpired limiter call.now).buckets key :=
  Function.update_of_ne h ..

/-- The calls for a key are answered by its own counter. -/
theorem answersFor_answers (hforward : ClockForward calls) (limiter : MemoryRateLimiter) :
    answersFor key (rule.answers limiter calls) =
      rule.keyAnswers (limiter.buckets key) (callsFor key calls) := by
  induction calls generalizing limiter with
  | nil => rfl
  | cons call calls ih =>
    have htail := ih hforward.tail (rule.check limiter call).1
    rw [answers_cons, answersFor, callsFor]
    by_cases hkey : call.key = key
    · subst hkey
      rw [check_buckets_self] at htail
      simp only [List.filter_cons, decide_true, if_true, check_result]
      exact congrArg _ htail
    · rw [check_buckets_of_ne _ (Ne.symm hkey)] at htail
      simp only [List.filter_cons, hkey, decide_false, Bool.false_eq_true, if_false]
      refine htail.trans (keyAnswers_congr fun c hc ↦ ?_)
      exact rule.liveBucket_pruneExpired _ _ (hforward.le c (List.mem_of_mem_filter hc))

end

/-! ## Windows -/

/-- How many of the calls before a time are allowed. -/
def allowedBefore (stop : Time) (answers : List (RateLimitCall × RateLimitResult)) : ℕ :=
  answers.countP fun answer ↦ answer.1.now < stop ∧ answer.2.allowed

section

variable {rule : RateLimitRule} {calls : List RateLimitCall}

theorem keyAnswers_call {current : Option RateLimitBucket} {answer : RateLimitCall × RateLimitResult}
    (h : answer ∈ rule.keyAnswers current calls) : answer.1 ∈ calls := by
  induction calls generalizing current with
  | nil => cases h
  | cons call calls ih =>
    rw [RateLimitRule.keyAnswers, List.mem_cons] at h
    obtain rfl | h := h
    · exact List.mem_cons_self
    · exact List.mem_cons_of_mem _ (ih h)

theorem allowedBefore_of_le {stop : Time} (h : ∀ c ∈ calls, stop ≤ c.now)
    (current : Option RateLimitBucket) : allowedBefore stop (rule.keyAnswers current calls) = 0 := by
  refine List.countP_eq_zero.mpr fun answer hanswer ↦ ?_
  have hle := h _ (keyAnswers_call hanswer)
  grind

/-- What is left of a window that has begun. -/
theorem allowedBefore_keyAnswers (count : ℕ) (resetAt : Time) (h : ClockForward calls) :
    allowedBefore resetAt (rule.keyAnswers (some ⟨count, resetAt⟩) calls) ≤ rule.max - count := by
  induction calls generalizing count with
  | nil => exact Nat.zero_le _
  | cons call calls ih =>
    by_cases hover : resetAt ≤ call.now
    · rw [allowedBefore_of_le]
      · exact Nat.zero_le _
      · exact List.forall_mem_cons.mpr ⟨hover, fun c hc ↦ hover.trans (h.le c hc)⟩
    · have hcount : rule.count (some ⟨count, resetAt⟩) call.now = ⟨count + 1, resetAt⟩ := by
        have hlive : liveBucket call.now (some ⟨count, resetAt⟩) = some ⟨count, resetAt⟩ :=
          liveBucket_some (not_le.mp hover)
        simp only [RateLimitRule.count, hlive]
      have htail := ih (count + 1) h.tail
      rw [RateLimitRule.keyAnswers, hcount, allowedBefore, List.countP_cons]
      rw [allowedBefore] at htail
      simp only [RateLimitRule.result, decide_eq_true_eq]
      split_ifs with hallowed
      · omega
      · omega

/-- A whole window. -/
theorem allowedBefore_window {call : RateLimitCall} {current : Option RateLimitBucket}
    (hstart : liveBucket call.now current = none) (h : ClockForward (call :: calls)) :
    allowedBefore (call.now + rule.windowMs) (rule.keyAnswers current (call :: calls)) ≤
      rule.max := by
  have hcount : rule.count current call.now = ⟨1, call.now + rule.windowMs⟩ := by
    simp only [RateLimitRule.count, hstart]
  have htail : allowedBefore (call.now + rule.windowMs)
      (rule.keyAnswers (some ⟨1, call.now + rule.windowMs⟩) calls) ≤ rule.max - 1 :=
    allowedBefore_keyAnswers 1 _ h.tail
  rw [RateLimitRule.keyAnswers, hcount, allowedBefore, List.countP_cons]
  rw [allowedBefore] at htail
  simp only [RateLimitRule.result, decide_eq_true_eq]
  split_ifs with hallowed
  · omega
  · omega

end

/-- Every result is that of a limiter that never prunes; what the calls for a key are answered is what
they are answered alone; and of the calls before the end of a window that starts with one of them, at
most `max` are allowed. -/
theorem pruning_unseen (rule : RateLimitRule) (calls : List RateLimitCall)
    (hforward : ClockForward calls) :
    rule.results {} calls = rule.resultsUnpruned {} calls ∧
    (∀ key, answersFor key (rule.answers {} calls) = rule.answers {} (callsFor key calls)) ∧
    ∀ before call later, calls = before ++ call :: later →
      liveBucket call.now ((rule.after {} before).buckets call.key) = none →
      allowedBefore (call.now + rule.windowMs)
        (answersFor call.key ((rule.answers {} calls).drop before.length)) ≤ rule.max := by
  refine ⟨?_, fun key ↦ ?_, ?_⟩
  · cases calls with
    | nil => rfl
    | cons call calls =>
      have hsame : SameLive call.now {} {} := fun _ _ _ ↦ rfl
      exact hsame.results hforward (List.forall_mem_cons.mpr ⟨le_rfl, hforward.le⟩)
  · have hkey : ∀ c ∈ callsFor key calls, c.key = key := fun c hc ↦
      of_decide_eq_true (List.mem_filter.mp hc).2
    have halone : answersFor key (rule.answers {} (callsFor key calls)) =
        rule.answers {} (callsFor key calls) :=
      List.filter_eq_self.mpr fun answer hanswer ↦
        decide_eq_true (hkey _ (List.of_mem_zip hanswer).1)
    have hagain : callsFor key (callsFor key calls) = callsFor key calls :=
      List.filter_eq_self.mpr fun c hc ↦ decide_eq_true (hkey c hc)
    have hsublist : ClockForward (callsFor key calls) := hforward.sublist List.filter_sublist
    rw [answersFor_answers hforward, ← halone, answersFor_answers hsublist, hagain]
  · rintro before call later rfl hstart
    have hlater : ClockForward (call :: later) := (List.pairwise_append.mp hforward).2.1
    have hkey : callsFor call.key (call :: later) = call :: callsFor call.key later := by
      simp [callsFor]
    rw [answers_append, ← length_answers {} before, List.drop_left, answersFor_answers hlater, hkey]
    exact allowedBefore_window hstart (hlater.sublist (List.filter_sublist.cons_cons _))

/-- Three calls for one key, one of them in the next window, and a call for another key between them. -/
theorem pruning_unseen_sample :
    let rule : RateLimitRule := ⟨1000, 1⟩
    let calls : List RateLimitCall := [⟨"a", 0⟩, ⟨"b", 700⟩, ⟨"a", 900⟩, ⟨"a", 1700⟩]
    ClockForward calls ∧ rule.results {} calls = rule.resultsUnpruned {} calls ∧
      (rule.results {} calls).map RateLimitResult.allowed = [true, true, false, true] := by
  have hforward : ClockForward [⟨"a", 0⟩, ⟨"b", 700⟩, ⟨"a", 900⟩, ⟨"a", 1700⟩] := by
    simp [ClockForward]
  exact ⟨hforward, (pruning_unseen _ _ hforward).1, by decide +kernel⟩

end KmtLegal
