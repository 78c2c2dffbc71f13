import LoadScript.Load.Profile
import LoadScript.Proofs.Load.Duration

/-!
# The shape of load profiles

Whatever the parameters are, one user over at most thirty seconds runs a fixed number of iterations,
and any other load goes up, stays and goes down in three stages. The stages take as long as was
asked for, or somewhat longer when that is less than 34 seconds, and nothing that is computed for
them needs more than 64 bits.
-/

set_option autoImplicit false

namespace LoadScript

namespace LoadProfile

/-! ## What is asked for -/

/-- The number of users that parameters ask for: one, unless `vus` is a number of 32 bits other than
zero. -/
inductive AsksUsers (p : Parameters) : Nat → Prop
  | number {text : String} {n : Nat} (given : p.get? "vus" = some text)
      (read : Chars.IsUnsigned (twoTo 32) (Chars.trim text.toList) n) (some_user : n ≠ 0) :
      AsksUsers p n
  | zero {text : String} (given : p.get? "vus" = some text)
      (read : Chars.IsUnsigned (twoTo 32) (Chars.trim text.toList) 0) : AsksUsers p 1
  | other {text : String} (given : p.get? "vus" = some text)
      (unread : ∀ n, ¬ Chars.IsUnsigned (twoTo 32) (Chars.trim text.toList) n) : AsksUsers p 1
  | missing (absent : p.get? "vus" = none) : AsksUsers p 1

/-- The seconds that parameters ask for: thirty if no duration is given, and sixty if it cannot be
read. -/
inductive AsksSeconds (p : Parameters) : Nat → Prop
  | duration {text : String} {n : Nat} (given : p.get? "duration" = some text)
      (visible : Text.isBlank text = false) (read : Duration.seconds? text = some n) :
      AsksSeconds p n
  | other {text : String} (given : p.get? "duration" = some text)
      (visible : Text.isBlank text = false) (unread : Duration.seconds? text = none) :
      AsksSeconds p 60
  | blank {text : String} (given : p.get? "duration" = some text)
      (blank : Text.isBlank text = true) : AsksSeconds p 30
  | missing (absent : p.get? "duration" = none) : AsksSeconds p 30

theorem readWord32_of_isBlank {text : String} (blank : Text.isBlank text = true) :
    Text.readWord32 (Text.trim text) = none := by
  rw [(Text.trim_eq_empty_iff text).2 blank]
  decide +kernel

/-- A blank text is no number, so it makes no difference whether a value is blank or missing. -/
theorem readWord32_getOr (p : Parameters) (key : String) :
    Text.readWord32 (Text.trim (p.getOr key "")) =
      (p.get? key).bind fun text => Text.readWord32 (Text.trim text) := by
  unfold Parameters.getOr
  cases p.get? key with
  | none => exact readWord32_of_isBlank rfl
  | some text =>
    dsimp only
    split
    · rename_i blank
      rw [Option.bind_some, readWord32_of_isBlank blank]
      exact readWord32_of_isBlank rfl
    · rw [Option.bind_some]

theorem readWord32_trim {text : String} {n : Nat} : Text.readWord32 (Text.trim text) = some n ↔
    Chars.IsUnsigned (twoTo 32) (Chars.trim text.toList) n := by
  rw [Text.readWord32, Text.trim, String.toList_ofList]
  exact Chars.readUnsigned_eq_some_iff

theorem users_eq (p : Parameters) : users p =
    Nat.max (((p.get? "vus").bind fun text => Text.readWord32 (Text.trim text)).getD 1) 1 := by
  rw [users, count, readWord32_getOr]

theorem max_one_of_ne_zero {n : Nat} (h : n ≠ 0) : Nat.max n 1 = n := Nat.max_eq_left (by omega)

theorem asksUsers_users (p : Parameters) : AsksUsers p (users p) := by
  rw [users_eq]
  cases given : p.get? "vus" with
  | none => exact .missing given
  | some text =>
    rw [Option.bind_some]
    cases read : Text.readWord32 (Text.trim text) with
    | none =>
      refine .other given fun n number => ?_
      rw [readWord32_trim.2 number] at read
      cases read
    | some n =>
      have number := readWord32_trim.1 read
      by_cases zero : n = 0
      · subst zero
        exact .zero given number
      · rw [Option.getD_some, max_one_of_ne_zero zero]
        exact .number given number zero

theorem AsksUsers.eq_users {p : Parameters} {v : Nat} (h : AsksUsers p v) : v = users p := by
  rw [users_eq]
  cases h with
  | number given read some_user =>
    rw [given, Option.bind_some, readWord32_trim.2 read, Option.getD_some,
      max_one_of_ne_zero some_user]
  | zero given read =>
    rw [given, Option.bind_some, readWord32_trim.2 read]
    rfl
  | @other text given unread =>
    have none_read : Text.readWord32 (Text.trim text) = none :=
      Option.eq_none_iff_forall_ne_some.2 fun n read => unread n (readWord32_trim.1 read)
    rw [given, Option.bind_some, none_read]
    rfl
  | missing absent =>
    rw [absent]
    rfl

theorem defaultDuration_read : Duration.seconds? defaultDuration = some 30 := by decide +kernel

theorem seconds_of_visible {p : Parameters} {text : String} (given : p.get? "duration" = some text)
    (visible : Text.isBlank text = false) :
    seconds p = (Duration.seconds? text).getD fallbackSeconds := by
  simp only [seconds, Parameters.getOr, given, visible, Bool.false_eq_true, if_false]

theorem seconds_of_blank {p : Parameters} {text : String} (given : p.get? "duration" = some text)
    (blank : Text.isBlank text = true) : seconds p = 30 := by
  simp only [seconds, Parameters.getOr, given, blank, if_true, defaultDuration_read,
    Option.getD_some]

theorem seconds_of_missing {p : Parameters} (absent : p.get? "duration" = none) :
    seconds p = 30 := by
  simp only [seconds, Parameters.getOr, absent, defaultDuration_read, Option.getD_some]

theorem asksSeconds_seconds (p : Parameters) : AsksSeconds p (seconds p) := by
  cases given : p.get? "duration" with
  | none =>
    rw [seconds_of_missing given]
    exact .missing given
  | some text =>
    cases blank : Text.isBlank text with
    | true =>
      rw [seconds_of_blank given blank]
      exact .blank given blank
    | false =>
      rw [seconds_of_visible given blank]
      cases read : Duration.seconds? text with
      | none => exact .other given blank read
      | some n => exact .duration given blank read

theorem AsksSeconds.eq_seconds {p : Parameters} {n : Nat} (h : AsksSeconds p n) :
    n = seconds p := by
  cases h with
  | duration given visible read =>
    rw [seconds_of_visible given visible, read]
    rfl
  | other given visible unread =>
    rw [seconds_of_visible given visible, unread]
    rfl
  | blank given blank => rw [seconds_of_blank given blank]
  | missing absent => rw [seconds_of_missing absent]

theorem seconds_lt (p : Parameters) : seconds p < twoTo 64 := by
  unfold seconds
  cases read : Duration.seconds? (p.getOr "duration" defaultDuration) with
  | none => decide
  | some n =>
    obtain ⟨-, -, -, small⟩ := (Duration.seconds?_eq_some_iff _ _).1 read
    exact small

/-! ## Computing with words -/

def word? (n : Nat) : Option Nat := if n < twoTo 64 then some n else none

theorem word?_of_lt {n : Nat} (small : n < twoTo 64) : word? n = some n := if_pos small

def percentOf? (total percent : Nat) : Option Nat := do
  let hundreds ← word? (total / 100 * percent)
  let rest ← word? (total % 100 * percent)
  word? (hundreds + rest / 100)

def stages? (users total : Nat) : Option (List Stage) := do
  let share ← percentOf? total 15
  let fifth ← percentOf? total 20
  let rampUp := Nat.max fifth leastRampUp
  return [⟨rampUp, users⟩,
    ⟨Nat.max (total - rampUp - share) leastSteady, users⟩,
    ⟨Nat.max share leastRampDown, 0⟩]

def totalSeconds? : LoadProfile → Option Nat
  | .fixed _ _ => some 0
  | .ramping _ stages => stages.foldlM (fun total stage => word? (total + stage.seconds)) 0

theorem percentOf_eq (total percent : Nat) : percentOf total percent = total * percent / 100 := by
  have parts : total * percent = 100 * (total / 100 * percent) + total % 100 * percent := by
    calc
      total * percent = (100 * (total / 100) + total % 100) * percent := by rw [Nat.div_add_mod]
      _ = _ := by rw [Nat.add_mul, Nat.mul_assoc]
  rw [parts, Nat.mul_add_div (by decide), percentOf]

theorem percentOf_le (total : Nat) {percent : Nat} (share : percent ≤ 100) :
    percentOf total percent ≤ total := by
  rw [percentOf_eq]
  calc
    total * percent / 100 ≤ total * 100 / 100 := Nat.div_le_div_right (Nat.mul_le_mul_left _ share)
    _ = total := Nat.mul_div_cancel _ (by decide)

theorem percentOf_parts_lt {total percent : Nat} (small : total < twoTo 64)
    (share : percent ≤ 100) :
    ∀ n ∈ [total / 100, total / 100 * percent, total % 100, total % 100 * percent,
      total % 100 * percent / 100, percentOf total percent], n < twoTo 64 := by
  have whole := percentOf_le total share
  have hundreds : total / 100 * percent ≤ percentOf total percent := Nat.le_add_right _ _
  have rest : total % 100 * percent ≤ 100 * 100 :=
    Nat.mul_le_mul (Nat.le_of_lt (Nat.mod_lt _ (by decide))) share
  have room : 100 * 100 < twoTo 64 := by decide
  simp only [List.forall_mem_cons, List.not_mem_nil, false_implies, implies_true, and_true]
  omega

theorem percentOf?_eq {total percent : Nat} (small : total < twoTo 64) (share : percent ≤ 100) :
    percentOf? total percent = some (percentOf total percent) := by
  have parts := percentOf_parts_lt small share
  simp only [List.forall_mem_cons] at parts
  obtain ⟨-, hundreds, -, rest, -, sum, -⟩ := parts
  rw [percentOf?, word?_of_lt hundreds, word?_of_lt rest]
  exact word?_of_lt sum

/-- A share of a word is the whole part of the exact share, although the product of the total and
the percentage may be no word. -/
theorem percentOf_exact_in_words {total percent : Nat} (small : total < twoTo 64)
    (share : percent ≤ 100) :
    (∀ n ∈ [total / 100, total / 100 * percent, total % 100, total % 100 * percent,
      total % 100 * percent / 100, percentOf total percent], n < twoTo 64) ∧
    percentOf? total percent = some (percentOf total percent) ∧
    percentOf total percent = total * percent / 100 :=
  ⟨percentOf_parts_lt small share, percentOf?_eq small share, percentOf_eq total percent⟩

/-- The largest word times 99 is no word. -/
theorem largest_word_share :
    word? ((twoTo 64 - 1) * 99) = none ∧ twoTo 64 - 1 < twoTo 64 ∧
      percentOf? (twoTo 64 - 1) 99 = some 18262276632972456098 := by
  have small : twoTo 64 - 1 < twoTo 64 := by decide
  obtain ⟨-, words, exact⟩ := percentOf_exact_in_words small (show 99 ≤ 100 by decide)
  refine ⟨by decide, small, ?_⟩
  rw [words, exact]
  rfl

theorem stages?_eq {users total : Nat} (small : total < twoTo 64) :
    stages? users total = some (stages users total) := by
  rw [stages?, percentOf?_eq small (by decide), percentOf?_eq small (by decide)]
  rfl

theorem foldlM_word? (ss : List Stage) (sum : Nat)
    (small : sum + ss.foldr (fun stage total => stage.seconds + total) 0 < twoTo 64) :
    ss.foldlM (fun total stage => word? (total + stage.seconds)) sum =
      some (sum + ss.foldr (fun stage total => stage.seconds + total) 0) := by
  induction ss generalizing sum with
  | nil => rfl
  | cons stage ss ih =>
    rw [List.foldr_cons] at small
    have next : sum + stage.seconds < twoTo 64 := by omega
    rw [List.foldlM_cons, word?_of_lt next, List.foldr_cons, ← Nat.add_assoc]
    exact ih (sum + stage.seconds) (by omega)

theorem totalSeconds?_eq {profile : LoadProfile} (small : profile.totalSeconds < twoTo 64) :
    totalSeconds? profile = some profile.totalSeconds := by
  cases profile with
  | fixed users iterations => rfl
  | ramping start stages =>
    have sum := foldlM_word? stages 0 (by rw [Nat.zero_add]; exact small)
    rw [Nat.zero_add] at sum
    exact sum

/-! ## Stages -/

theorem stages_eq (users total : Nat) : stages users total =
    [⟨Nat.max (total * 20 / 100) 10, users⟩,
     ⟨Nat.max (total - Nat.max (total * 20 / 100) 10 - total * 15 / 100) 10, users⟩,
     ⟨Nat.max (total * 15 / 100) 5, 0⟩] := by
  rw [stages, percentOf_eq, percentOf_eq]
  rfl

/-- The time of all stages: no less than the shortest stages take, and more than was asked for while
its share for the last stage is too short. -/
def stagesTime (total : Nat) : Nat := Nat.max 25 (total + (5 - 15 * total / 100))

theorem natMax_eq (a b : Nat) : Nat.max a b = max a b := rfl

theorem totalSeconds_ramping (start users total : Nat) :
    totalSeconds (.ramping start (stages users total)) = stagesTime total := by
  simp only [totalSeconds, stages_eq, stagesTime, List.foldr_cons, List.foldr_nil, natMax_eq]
  -- From 50 seconds on the first stage has its share, from 34 on the last one; the rest is steady.
  omega

theorem le_stagesTime (total : Nat) : total ≤ stagesTime total := by
  simp only [stagesTime, natMax_eq]
  omega

theorem stagesTime_eq_iff (total : Nat) : stagesTime total = total ↔ 34 ≤ total := by
  simp only [stagesTime, natMax_eq]
  omega

theorem stagesTime_mono {total longer : Nat} (h : total ≤ longer) :
    stagesTime total ≤ stagesTime longer := by
  simp only [stagesTime, natMax_eq]
  omega

theorem stagesTime_lt {total : Nat} (small : total < twoTo 64) : stagesTime total < twoTo 64 := by
  by_cases long : 34 ≤ total
  · rwa [(stagesTime_eq_iff total).2 long]
  · have bound : stagesTime total ≤ 38 := by
      simp only [stagesTime, natMax_eq]
      omega
    exact Nat.lt_of_le_of_lt bound (by decide)

/-- The load goes up to a number of users, stays there and goes down again, over a time. -/
structure Ramped (users total : Nat) (profile : LoadProfile) : Prop where
  stages : ∃ start rampUp steady rampDown,
    profile = .ramping start [⟨rampUp, users⟩, ⟨steady, users⟩, ⟨rampDown, 0⟩] ∧
    1 ≤ start ∧ start ≤ users ∧ 10 ≤ rampUp ∧ 10 ≤ steady ∧ 5 ≤ rampDown ∧
    stages? users total = some [⟨rampUp, users⟩, ⟨steady, users⟩, ⟨rampDown, 0⟩]
  time : profile.totalSeconds = Nat.max 25 (total + (5 - 15 * total / 100))
  time_word : totalSeconds? profile = some profile.totalSeconds
  exact_iff : profile.totalSeconds = total ↔ 34 ≤ total
  enough : total ≤ profile.totalSeconds

theorem ramped_stages {users total : Nat} (some_user : 1 ≤ users) (small : total < twoTo 64) :
    Ramped users total (.ramping (Nat.max (users / 10) 1) (stages users total)) := by
  have time := totalSeconds_ramping (Nat.max (users / 10) 1) users total
  refine ⟨?_, time, totalSeconds?_eq ?_, ?_, ?_⟩
  · refine ⟨_, _, _, _, by rw [stages_eq], ?_, ?_, ?_, ?_, ?_, ?_⟩
    · exact Nat.le_max_right _ _
    · exact Nat.max_le.2 ⟨Nat.div_le_self _ _, some_user⟩
    · exact Nat.le_max_right _ _
    · exact Nat.le_max_right _ _
    · exact Nat.le_max_right _ _
    · rw [stages?_eq small, stages_eq]
  · rw [time]
    exact stagesTime_lt small
  · rw [time]
    exact stagesTime_eq_iff total
  · rw [time]
    exact le_stagesTime total

theorem one_le_users (p : Parameters) : 1 ≤ users p := Nat.le_max_right _ _

theorem ofParameters_of_small {p : Parameters} (small : users p = 1 ∧ seconds p ≤ 30) :
    ofParameters p = .fixed 1 (iterations p) := by
  rw [ofParameters, if_pos ⟨Nat.le_of_eq small.1, small.2⟩, small.1]

theorem ofParameters_of_large {p : Parameters} (large : ¬ (users p = 1 ∧ seconds p ≤ 30)) :
    ofParameters p = .ramping (Nat.max (users p / 10) 1) (stages (users p) (seconds p)) := by
  refine if_neg fun small => large ⟨?_, small.2⟩
  exact Nat.le_antisymm small.1 (one_le_users p)

theorem totalSeconds_of_large {p : Parameters} (large : ¬ (users p = 1 ∧ seconds p ≤ 30)) :
    (ofParameters p).totalSeconds = stagesTime (seconds p) := by
  rw [ofParameters_of_large large, totalSeconds_ramping]

theorem totalSeconds_le (p : Parameters) :
    (ofParameters p).totalSeconds ≤ stagesTime (seconds p) := by
  by_cases small : users p = 1 ∧ seconds p ≤ 30
  · rw [ofParameters_of_small small]
    exact Nat.zero_le _
  · exact Nat.le_of_eq (totalSeconds_of_large small)

/-- A profile is fixed exactly when one user is asked for and no more than thirty seconds, and has
three stages otherwise. Profiles with stages take the longer the more time is asked for. -/
theorem ofParameters_wellShaped (p : Parameters) : ∃ v T,
    (∀ n, AsksUsers p n ↔ n = v) ∧ (∀ n, AsksSeconds p n ↔ n = T) ∧ T < twoTo 64 ∧
    ((∃ iterations, ofParameters p = .fixed 1 iterations ∧ 1 ≤ iterations) ↔ v = 1 ∧ T ≤ 30) ∧
    (¬ (v = 1 ∧ T ≤ 30) → Ramped v T (ofParameters p)) ∧
    ∀ q U start stages, AsksSeconds q U → ofParameters q = .ramping start stages → T ≤ U →
      (ofParameters p).totalSeconds ≤ (ofParameters q).totalSeconds := by
  refine ⟨users p, seconds p, ?_, ?_, seconds_lt p, ?_, ?_, ?_⟩
  · intro n
    exact ⟨AsksUsers.eq_users, fun same => same ▸ asksUsers_users p⟩
  · intro n
    exact ⟨AsksSeconds.eq_seconds, fun same => same ▸ asksSeconds_seconds p⟩
  · constructor
    · rintro ⟨iterations, fixed, -⟩
      by_contra large
      rw [ofParameters_of_large large] at fixed
      cases fixed
    · intro small
      exact ⟨iterations p, ofParameters_of_small small, Nat.le_max_right _ _⟩
  · intro large
    rw [ofParameters_of_large large]
    exact ramped_stages (one_le_users p) (seconds_lt p)
  · intro q U start stages asked ramping longer
    have large : ¬ (users q = 1 ∧ seconds q ≤ 30) := by
      intro small
      rw [ofParameters_of_small small] at ramping
      cases ramping
    rw [asked.eq_seconds] at longer
    calc
      (ofParameters p).totalSeconds ≤ stagesTime (seconds p) := totalSeconds_le p
      _ ≤ stagesTime (seconds q) := stagesTime_mono longer
      _ = (ofParameters q).totalSeconds := (totalSeconds_of_large large).symm

def hurried : Parameters := ⟨[("vus", " +7 "), ("duration", "33S")], by decide⟩

theorem hurried_ramped :
    AsksUsers hurried 7 ∧ AsksSeconds hurried 33 ∧ Ramped 7 33 (ofParameters hurried) := by
  have users : AsksUsers hurried 7 :=
    .number (show hurried.get? "vus" = some " +7 " by decide)
      ⟨['7'], by simp, by decide, .inr (by decide), by decide, by decide⟩ (by decide)
  have seconds : AsksSeconds hurried 33 :=
    .duration (show hurried.get? "duration" = some "33S" by decide) (by decide) (by decide +kernel)
  obtain ⟨v, T, hv, hT, -, -, ramped, -⟩ := ofParameters_wellShaped hurried
  obtain rfl := (hv 7).1 users
  obtain rfl := (hT 33).1 seconds
  exact ⟨users, seconds, ramped (by decide)⟩

end LoadProfile

end LoadScript
