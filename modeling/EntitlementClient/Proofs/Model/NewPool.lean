/-
How long a new pool lasts. Of several choices of a caller the last one counts; without a choice a pool starts
today, lasts 365 days of the calendar and holds a hundred entitlements.
-/
import EntitlementClient.Model.Pool
import EntitlementClient.Proofs.Calendar.Days
import EntitlementClient.Proofs.Choices
import Mathlib.Data.List.Induction

namespace EntitlementClient.NewPool

open EntitlementClient.Calendar

/-! ## Choices -/

namespace Setting

/-- The start that is chosen, if it is the start. -/
def startDate? : Setting → Option Date
  | .startDate date => some date
  | _ => none

/-- The end that is chosen, if it is the end. -/
def endDate? : Setting → Option Date
  | .endDate date => some date
  | _ => none

/-- The quantity that is chosen, if it is the quantity. -/
def quantity? : Setting → Option Int64
  | .quantity value => some value
  | _ => none

end Setting

/-- The last choice of each kind counts, and nothing else of a pool changes. -/
theorem setAll_eq (pool : NewPool) (settings : List Setting) : pool.setAll settings =
    { pool with
      startDate := (lastOf? Setting.startDate? settings).or pool.startDate
      endDate := (lastOf? Setting.endDate? settings).or pool.endDate
      quantity := (lastOf? Setting.quantity? settings).getD pool.quantity } := by
  induction settings using List.reverseRecOn with
  | nil => rfl
  | append_singleton settings setting ih =>
    have step : pool.setAll (settings ++ [setting]) = (pool.setAll settings).set setting := by
      simp [setAll, List.foldl_append]
    rw [step, ih]
    cases setting <;> simp [set, lastOf?_concat, Setting.startDate?, Setting.endDate?, Setting.quantity?]

/-! ## The request -/

/-- The days are counted from the start only if no end is given. -/
theorem request?_eq (pool : NewPool) (today : Date) : pool.request? today =
    (pool.endDate.or ((pool.startDate.getD today).addDays? defaultDays)).map fun endDate =>
      { activeSubscription := false
        subscriptionId := pool.subscriptionId
        quantity := pool.quantity
        consumed := 0
        startDate := pool.startDate.getD today
        endDate
        productId := pool.productId
        owner := ⟨pool.ownerId⟩ } := by
  unfold request?
  cases pool.endDate with
  | none => exact Option.map_eq_bind.symm
  | some endDate => rfl

/-- A new pool starts at the start that was chosen last, or else today, has the quantity that was chosen last, or
else 100, and ends at the end that was chosen last, or else 365 days after its start: at the same day of
the next year, at the day before that if a leap day lies between, or at the last of February if it starts at a leap
day. There is no request if and only if no end was chosen and it starts in the last year of the calendar. -/
theorem request?_window (productId ownerId subscriptionId : String) (settings : List Setting) (today : Date) :
    let pool := setAll { productId, ownerId, subscriptionId } settings
    let start := (lastOf? Setting.startDate? settings).getD today
    (pool.request? today = none ↔ lastOf? Setting.endDate? settings = none ∧ start.year = lastYear) ∧
      ∀ request, pool.request? today = some request →
        request =
          { activeSubscription := false
            subscriptionId
            quantity := (lastOf? Setting.quantity? settings).getD 100
            consumed := 0
            startDate := start
            endDate := request.endDate
            productId
            owner := ⟨ownerId⟩ } ∧
        match lastOf? Setting.endDate? settings with
        | some chosen => request.endDate = chosen
        | none => start.later? 365 = some request.endDate ∧ Date.IsYearLater start request.endDate := by
  intro pool start
  simp only [pool, request?_eq, setAll_eq, Option.or_none, defaultDays]
  rw [show (lastOf? Setting.startDate? settings).getD today = start from rfl]
  cases lastOf? Setting.endDate? settings with
  | some chosen => simp
  | none =>
    simp only [Option.none_or, Option.map_eq_none_iff, Date.addDays?_year_eq_none, Option.map_eq_some_iff, true_and]
    rintro request ⟨endDate, count, rfl⟩
    exact ⟨rfl, Date.addDays?_eq_later? start 365 ▸ count, Date.isYearLater_of_addDays? count⟩

/-- A pool that starts at a leap day, and one that starts too late. -/
theorem request?_window_leapDay :
    (∃ request, request? (setAll { productId := "rhel", ownerId := "acme", subscriptionId := "7" }
        [.startDate ⟨2023, 6, 15, by decide⟩, .quantity 5, .startDate ⟨2024, 2, 29, by decide⟩])
        ⟨2023, 3, 1, by decide⟩ = some request ∧
      request.startDate = ⟨2024, 2, 29, by decide⟩ ∧ request.endDate = ⟨2025, 2, 28, by decide⟩ ∧
      request.quantity = 5) ∧
    request? (setAll { productId := "rhel", ownerId := "acme", subscriptionId := "7" } []) ⟨262142, 1, 1, by decide⟩ =
      none := by
  constructor
  · obtain ⟨refused, window⟩ := request?_window "rhel" "acme" "7"
      [.startDate ⟨2023, 6, 15, by decide⟩, .quantity 5, .startDate ⟨2024, 2, 29, by decide⟩] ⟨2023, 3, 1, by decide⟩
    obtain ⟨request, eq⟩ := Option.ne_none_iff_exists'.1 (mt refused.1 fun h => absurd h.2 (by decide))
    obtain ⟨all, -, later⟩ := window request eq
    refine ⟨request, eq, by rw [all]; rfl, ?_, by rw [all]; rfl⟩
    have last := later.ofLeapDay ⟨rfl, rfl⟩
    exact (Option.some.inj last).symm
  · exact (request?_window "rhel" "acme" "7" [] ⟨262142, 1, 1, by decide⟩).1.2 ⟨rfl, rfl⟩

end EntitlementClient.NewPool
