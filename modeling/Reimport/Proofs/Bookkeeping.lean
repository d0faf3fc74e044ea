import Reimport.Proofs.Walk.Account

/-!
# What a row of bookings makes of the counters

Whoever keeps the counters of a run is asked to record findings and to give the run up, in
any order: also after a booking that ended with a failure, and with values that are no
outcomes.  One booking changes the tally as `Tally.afterBooking` says (`tally_afterBooking`),
so each counter goes up by the outcomes that it counts (`counter_afterBookings`), and each flag
is set by some of the bookings and cleared by none (`flag_afterBookings`).  Together they say
of any row of bookings what the counters and the flags are at its end, and how each booking
is answered (`booked`).
-/
namespace Reimport

/-- What can be booked with whoever keeps the counters. -/
inductive Booking where
  /-- A finding is recorded. -/
  | record (finding : Finding)
  /-- The run is given up. -/
  | giveUp
  deriving DecidableEq, Repr

namespace Booking

/-- The outcome that is to be recorded, if it is one. -/
def outcome? : Booking → Option Outcome
  | .record (.outcome outcome) => some outcome
  | .record (.other _) | .giveUp => none

/-- Whether the booking gives the run up, by itself or by a breakdown that it records. -/
def givesUp : Booking → Bool
  | .record (.outcome outcome) => outcome.isBreakdown
  | .record (.other _) => false
  | .giveUp => true

/-- Whether the booking halts a run that does or does not halt on its first failure. -/
def halts (onFailure : Bool) : Booking → Bool
  | .record (.outcome outcome) => outcome.isBreakdown || (outcome.isMismatch && onFailure)
  | .record (.other _) => false
  | .giveUp => true

/-- The outcomes among what is to be recorded, in order. -/
def outcomes (bookings : List Booking) : List Outcome := bookings.filterMap outcome?

theorem outcomes_append (earlier later : List Booking) :
    outcomes (earlier ++ later) = outcomes earlier ++ outcomes later := List.filterMap_append

theorem mem_outcomes {bookings : List Booking} {outcome : Outcome} :
    outcome ∈ outcomes bookings ↔ .record (.outcome outcome) ∈ bookings := by
  rw [outcomes, List.mem_filterMap]
  constructor
  · rintro ⟨booking, hm, ho⟩
    cases booking with
    | giveUp => cases ho
    | record finding =>
      cases finding with
      | other kind => cases ho
      | outcome other => rwa [← Option.some.inj ho]
  · exact fun hm => ⟨_, hm, rfl⟩

theorem any_givesUp {bookings : List Booking} :
    bookings.any givesUp = true ↔
      .giveUp ∈ bookings ∨ ∃ outcome ∈ outcomes bookings, outcome.isBreakdown = true := by
  rw [List.any_eq_true]
  constructor
  · rintro ⟨booking, hm, hs⟩
    cases booking with
    | giveUp => exact .inl hm
    | record finding =>
      cases finding with
      | other kind => cases hs
      | outcome outcome => exact .inr ⟨outcome, mem_outcomes.2 hm, hs⟩
  · rintro (hm | ⟨outcome, hm, hs⟩)
    · exact ⟨_, hm, rfl⟩
    · exact ⟨_, mem_outcomes.1 hm, hs⟩

theorem any_halts {bookings : List Booking} {onFailure : Bool} :
    bookings.any (halts onFailure) = true ↔
      .giveUp ∈ bookings ∨ (∃ outcome ∈ outcomes bookings, outcome.isBreakdown = true) ∨
        (onFailure = true ∧ ∃ outcome ∈ outcomes bookings, outcome.isMismatch = true) := by
  have apart : ∀ booking : Booking, booking.halts onFailure =
      (booking.givesUp || (onFailure && booking.outcome?.any Outcome.isMismatch)) := by
    intro booking
    cases booking with
    | giveUp => rfl
    | record finding =>
      cases finding with
      | other kind => simp [halts, givesUp, outcome?]
      | outcome outcome => simp [halts, givesUp, outcome?, Bool.and_comm]
  have mismatch : (∃ booking ∈ bookings, booking.outcome?.any Outcome.isMismatch = true) ↔
      ∃ outcome ∈ outcomes bookings, outcome.isMismatch = true := by
    simp only [outcomes, List.mem_filterMap, Option.any_eq_true]
    grind
  rw [← or_assoc, ← any_givesUp, ← mismatch, List.any_eq_true, List.any_eq_true]
  simp only [apart, Bool.or_eq_true, Bool.and_eq_true]
  grind

end Booking

namespace Tally

/-- The tally after a booking. -/
def afterBooking (tally : Tally) : Booking → Tally
  | .record (.outcome outcome) => tally.after outcome
  | .record (.other _) => tally
  | .giveUp => tally.abort

/-- The tally after bookings in order. -/
def afterBookings (tally : Tally) (bookings : List Booking) : Tally :=
  bookings.foldl afterBooking tally

@[simp] theorem afterBookings_nil (tally : Tally) : tally.afterBookings [] = tally := rfl

@[simp] theorem afterBookings_cons (tally : Tally) (booking : Booking) (rest : List Booking) :
    tally.afterBookings (booking :: rest) = (tally.afterBooking booking).afterBookings rest := rfl

theorem afterBookings_append (tally : Tally) (earlier later : List Booking) :
    tally.afterBookings (earlier ++ later) = (tally.afterBookings earlier).afterBookings later :=
  List.foldl_append

/-- What no outcome and no abort changes is not changed by a booking. -/
theorem kept_afterBookings {α : Type} (part : Tally → α)
    (after : ∀ tally outcome, part (tally.after outcome) = part tally)
    (abort : ∀ tally : Tally, part tally.abort = part tally) (tally : Tally)
    (bookings : List Booking) : part (tally.afterBookings bookings) = part tally := by
  induction bookings generalizing tally with
  | nil => rfl
  | cons booking rest ih =>
    rw [afterBookings_cons, ih]
    cases booking with
    | giveUp => exact abort tally
    | record finding =>
      cases finding with
      | other kind => rfl
      | outcome outcome => exact after tally outcome

theorem exitOnFirstFailure_afterBookings (tally : Tally) (bookings : List Booking) :
    (tally.afterBookings bookings).statistics.exitOnFirstFailure =
      tally.statistics.exitOnFirstFailure :=
  kept_afterBookings (fun tally => tally.statistics.exitOnFirstFailure)
    exitOnFirstFailure_after (fun _ => rfl) tally bookings

/-- **A counter goes up by the outcomes that it counts**, in whatever row of bookings they
come. -/
theorem counter_afterBookings {counter : Statistics → Int} {counts : Outcome → Bool}
    (after : ∀ (tally : Tally) outcome, counter (tally.after outcome).statistics =
      counter tally.statistics + if counts outcome then 1 else 0)
    (abort : ∀ tally : Tally, counter tally.abort.statistics = counter tally.statistics)
    (tally : Tally) (bookings : List Booking) :
    counter (tally.afterBookings bookings).statistics =
      counter tally.statistics + (Booking.outcomes bookings).countP counts := by
  induction bookings generalizing tally with
  | nil => simp [Booking.outcomes]
  | cons booking rest ih =>
    rw [afterBookings_cons, ih]
    cases booking with
    | giveUp => rw [afterBooking, abort]; rfl
    | record finding =>
      cases finding with
      | other kind => rfl
      | outcome outcome =>
        have first : Booking.outcomes (.record (.outcome outcome) :: rest) =
            outcome :: Booking.outcomes rest := rfl
        rw [afterBooking, after, first, List.countP_cons]
        split
        · push_cast
          omega
        · simp

theorem failed_afterBookings (tally : Tally) (bookings : List Booking) :
    (tally.afterBookings bookings).statistics.failed =
      tally.statistics.failed + (Booking.outcomes bookings).countP Outcome.isMismatch :=
  counter_afterBookings failed_after (fun _ => rfl) tally bookings

/-- **A flag is set by some bookings and cleared by none.** -/
theorem flag_afterBookings {flag : Tally → Bool} (sets : Bool → Booking → Bool)
    (step : ∀ tally booking, flag (tally.afterBooking booking) =
      (flag tally || sets tally.statistics.exitOnFirstFailure booking))
    (tally : Tally) (bookings : List Booking) :
    flag (tally.afterBookings bookings) =
      (flag tally || bookings.any (sets tally.statistics.exitOnFirstFailure)) := by
  induction bookings generalizing tally with
  | nil => simp
  | cons booking rest ih =>
    have same := exitOnFirstFailure_afterBookings tally [booking]
    rw [afterBookings_cons, afterBookings_nil] at same
    rw [afterBookings_cons, ih, step, same, List.any_cons, Bool.or_assoc]

theorem halted_afterBookings (tally : Tally) (bookings : List Booking) :
    (tally.afterBookings bookings).halted =
      (tally.halted || bookings.any (Booking.halts tally.statistics.exitOnFirstFailure)) := by
  refine flag_afterBookings Booking.halts (fun tally booking => ?_) tally bookings
  cases booking with
  | giveUp => exact (Bool.or_true _).symm
  | record finding =>
    cases finding with
    | other kind => exact (Bool.or_false _).symm
    | outcome outcome =>
      rw [afterBooking, Booking.halts]
      cases whole : outcome.isBreakdown with
      | false => rw [halted_after whole, Bool.false_or]
      | true =>
        cases outcome with
        | exportFailed _ => exact (Bool.or_true _).symm
        | importFailed _ => exact (Bool.or_true _).symm
        | passed _ | uncompilable _ | mismatched _ _ _ => cases whole

theorem aborted_afterBookings (tally : Tally) (bookings : List Booking) :
    (tally.afterBookings bookings).aborted = (tally.aborted || bookings.any Booking.givesUp) := by
  refine flag_afterBookings (fun _ => Booking.givesUp) (fun tally booking => ?_) tally bookings
  cases booking with
  | giveUp => exact (Bool.or_true _).symm
  | record finding =>
    cases finding with
    | other kind => exact (Bool.or_false _).symm
    | outcome outcome => cases outcome <;> simp [afterBooking, after, abort, Booking.givesUp,
        Outcome.isBreakdown]

/-- A tally is that of a success as long as nothing failed and the run was not given up. -/
theorem succeeded_afterBookings {tally : Tally} (nonneg : 0 ≤ tally.statistics.failed)
    (bookings : List Booking) :
    (tally.afterBookings bookings).succeeded = true ↔
      tally.succeeded = true ∧ bookings.any Booking.givesUp = false ∧
        ∀ outcome ∈ Booking.outcomes bookings, outcome.isMismatch = false := by
  have none : (Booking.outcomes bookings).countP Outcome.isMismatch = 0 ↔
      ∀ outcome ∈ Booking.outcomes bookings, outcome.isMismatch = false := by
    simp [List.countP_eq_zero]
  rw [succeeded_iff, succeeded_iff, failed_afterBookings, aborted_afterBookings, ← none,
    Bool.or_eq_false_iff]
  constructor
  · rintro ⟨failed, aborted, given⟩
    exact ⟨⟨by omega, aborted⟩, given, by omega⟩
  · rintro ⟨⟨failed, aborted⟩, given, mismatched⟩
    exact ⟨by omega, aborted, given⟩

end Tally

namespace Session

/-- The session after a booking, however that ends. -/
def afterBooking (session : Session) : Booking → Session
  | .record finding => reached (record finding session)
  | .giveUp => reached (giveUp session)

/-- The session after bookings in order. -/
def afterBookings (session : Session) (bookings : List Booking) : Session :=
  bookings.foldl afterBooking session

/-- A value that is no outcome is refused and changes nothing. -/
theorem record_other (kind : Text) (session : Session) :
    record (.other kind) session = .error (.unknownOutcome kind) session := rfl

/-- **One booking** changes the tally as the tally alone tells. -/
theorem tally_afterBooking (session : Session) (booking : Booking) :
    (session.afterBooking booking).tally = session.tally.afterBooking booking := by
  cases booking with
  | giveUp => rfl
  | record finding =>
    cases finding with
    | other kind => rfl
    | outcome outcome =>
      obtain ⟨world, h⟩ := record_eq outcome session
      rw [afterBooking, h]
      cases outcome.finding? <;> rfl

theorem tally_afterBookings (session : Session) (bookings : List Booking) :
    (session.afterBookings bookings).tally = session.tally.afterBookings bookings := by
  induction bookings generalizing session with
  | nil => rfl
  | cons booking rest ih =>
    rw [afterBookings, List.foldl_cons, ← afterBookings, ih, tally_afterBooking]
    rfl

/-- **How the booking of a finding is answered.** -/
structure Answered (session : Session) (finding : Finding) : Prop where
  /-- It fails with a failed export iff that is the outcome, and the failure carries it. -/
  exportFailure : ∀ breakdown,
    (∃ after, record finding session = .error (.abort (.exportFailed breakdown)) after) ↔
      finding = .outcome (.exportFailed breakdown)
  /-- It fails with a failed import iff that is the outcome, and the failure carries it. -/
  importFailure : ∀ breakdown,
    (∃ after, record finding session = .error (.abort (.importFailed breakdown)) after) ↔
      finding = .outcome (.importFailed breakdown)
  /-- Any other outcome is answered with whether the run is halted. -/
  otherwise : ∀ outcome, finding = .outcome outcome → outcome.isBreakdown = false →
    ∃ after, record finding session = .ok after.tally.statistics.haltedEarly after
  /-- Any other value is refused, and nothing is changed or shown. -/
  unknown : ∀ kind, finding = .other kind →
    record finding session = .error (.unknownOutcome kind) session

theorem answered (session : Session) (finding : Finding) : Answered session finding := by
  cases finding with
  | other kind => exact ⟨by simp [record_other], by simp [record_other], nofun, by simp [record_other]⟩
  | outcome outcome =>
    obtain ⟨world, h⟩ := record_eq outcome session
    refine ⟨fun breakdown => ?_, fun breakdown => ?_, fun other he whole => ?_, nofun⟩
    · cases outcome <;> simp [h, Outcome.finding?]
    · cases outcome <;> simp [h, Outcome.finding?]
    · cases he
      rw [Outcome.finding?_eq_none_iff.2 whole] at h
      exact ⟨⟨world, session.stdout ++ recordMark outcome, session.tally.after outcome⟩, h⟩

/-- **What a row of bookings makes of a session**, and how each of them is answered. -/
structure Booked (start : Session) (bookings : List Booking) : Prop where
  /-- The tested entries go up by the outcomes that passed or mismatched. -/
  tested : (start.afterBookings bookings).tally.statistics.tested =
    start.tally.statistics.tested + (Booking.outcomes bookings).countP Outcome.isTested
  /-- The failed entries go up by the outcomes that mismatched. -/
  failed : (start.afterBookings bookings).tally.statistics.failed =
    start.tally.statistics.failed + (Booking.outcomes bookings).countP Outcome.isMismatch
  /-- The uncompilable entries go up by the outcomes that say so. -/
  uncompilable : (start.afterBookings bookings).tally.statistics.uncompilable =
    start.tally.statistics.uncompilable +
      (Booking.outcomes bookings).countP Outcome.isUncompilable
  /-- The number of sources stays. -/
  totalSources : (start.afterBookings bookings).tally.statistics.totalSources =
    start.tally.statistics.totalSources
  /-- Whether the first failure halts the run stays. -/
  exitOnFirstFailure : (start.afterBookings bookings).tally.statistics.exitOnFirstFailure =
    start.tally.statistics.exitOnFirstFailure
  /-- What halts the run. -/
  halted : (start.afterBookings bookings).tally.statistics.haltedEarly = true ↔
    start.tally.statistics.haltedEarly = true ∨ .giveUp ∈ bookings ∨
      (∃ outcome ∈ Booking.outcomes bookings, outcome.isBreakdown = true) ∨
      (start.tally.statistics.exitOnFirstFailure = true ∧
        ∃ outcome ∈ Booking.outcomes bookings, outcome.isMismatch = true)
  /-- What is left of a success. -/
  succeeded : (start.afterBookings bookings).tally.succeeded = true ↔
    start.tally.statistics.failed = 0 ∧ .giveUp ∉ bookings ∧
      ∀ outcome ∈ Booking.outcomes bookings,
        outcome.isMismatch = false ∧ outcome.isBreakdown = false
  /-- A halt is never taken back, and a success that is lost never comes again. -/
  lasting : ∀ earlier later, bookings = earlier ++ later →
    ((start.afterBookings earlier).tally.statistics.haltedEarly = true →
        (start.afterBookings bookings).tally.statistics.haltedEarly = true) ∧
      ((start.afterBookings earlier).tally.succeeded = false →
        (start.afterBookings bookings).tally.succeeded = false)
  /-- Every booking of a finding is answered by what the finding is. -/
  answered : ∀ earlier finding later, bookings = earlier ++ .record finding :: later →
    Answered (start.afterBookings earlier) finding

/-- **The counters are exact after any row of bookings**, whatever is recorded, whichever of
the bookings fail and whenever the run is given up. -/
theorem booked (world : World) (stdout : Text) (statistics : Statistics)
    (nonneg : 0 ≤ statistics.failed) (bookings : List Booking) :
    Booked ⟨world, stdout, .ofStatistics statistics⟩ bookings := by
  generalize hs : (⟨world, stdout, .ofStatistics statistics⟩ : Session) = start
  have htally : start.tally = .ofStatistics statistics := by rw [← hs]
  have counted : 0 ≤ start.tally.statistics.failed := by rwa [htally]
  have fresh : start.tally.succeeded = true ↔ start.tally.statistics.failed = 0 := by
    rw [Tally.succeeded_iff, htally]
    exact and_iff_left rfl
  have final := tally_afterBookings start
  refine ⟨?_, ?_, ?_, ?_, ?_, ?_, ?_, fun earlier later he => ⟨fun h => ?_, fun h => ?_⟩,
    fun earlier finding _ _ => Session.answered _ finding⟩
  · rw [final]
    exact Tally.counter_afterBookings Tally.tested_after (fun _ => rfl) _ bookings
  · rw [final, Tally.failed_afterBookings]
  · rw [final]
    exact Tally.counter_afterBookings Tally.uncompilable_after (fun _ => rfl) _ bookings
  · rw [final]
    exact Tally.kept_afterBookings (fun tally => tally.statistics.totalSources)
      Tally.totalSources_after (fun _ => rfl) _ bookings
  · rw [final, Tally.exitOnFirstFailure_afterBookings]
  · have set := start.tally.halted_afterBookings bookings
    rw [← final] at set
    rw [show (start.afterBookings bookings).tally.statistics.haltedEarly = _ from set,
      Bool.or_eq_true, Booking.any_halts]
    rfl
  · rw [final, Tally.succeeded_afterBookings counted, fresh, ← Bool.not_eq_true,
      Booking.any_givesUp]
    simp only [not_or, not_exists, not_and, Bool.not_eq_true]
    grind
  · have set := (start.afterBookings earlier).tally.halted_afterBookings later
    rw [show (start.afterBookings earlier).tally.halted = true from h, Bool.true_or, final earlier,
      ← Tally.afterBookings_append, ← he, ← final] at set
    exact set
  · have before : 0 ≤ (start.afterBookings earlier).tally.statistics.failed := by
      rw [final, Tally.failed_afterBookings]
      omega
    have kept := Tally.succeeded_afterBookings before later
    rw [final earlier, ← Tally.afterBookings_append, ← he, ← final, ← final earlier, h] at kept
    rw [← Bool.not_eq_true, kept]
    exact fun h => Bool.false_ne_true h.1

/-- A breakdown of the entry `/e`. -/
def soleBreakdown : Breakdown := ⟨⟨Path.ofPlace [['e']]⟩, ⟨[], [], Path.ofPlace []⟩, [], []⟩

/-- Bookings of every kind, of which the third and the fifth fail. -/
def mixedBookings : List Booking :=
  [.record (.outcome (.passed ⟨Path.ofPlace [['e']]⟩)),
    .record (.outcome (.mismatched ⟨Path.ofPlace [['e']]⟩ ⟨[], [], Path.ofPlace []⟩ ['d'])),
    .record (.other "object"), .giveUp, .record (.outcome (.importFailed soleBreakdown)),
    .record (.outcome (.uncompilable ⟨Path.ofPlace [['e']]⟩))]

theorem booked_mixed :
    0 ≤ (Statistics.fresh false).failed ∧
      Booked ⟨⟨⟨[]⟩, [], [], []⟩, [], .ofStatistics (.fresh false)⟩ mixedBookings ∧
      (afterBookings ⟨⟨⟨[]⟩, [], [], []⟩, [], .ofStatistics (.fresh false)⟩ mixedBookings).tally =
        ⟨⟨2, 1, 1, 0, false, true⟩, true⟩ :=
  ⟨by decide, booked _ _ _ (by decide) mixedBookings, by rw [tally_afterBookings]; rfl⟩

end Session
end Reimport
