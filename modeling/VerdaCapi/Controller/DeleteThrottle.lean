import Mathlib.Algebra.Order.Group.Int
import VerdaCapi.Controller.Machine
import VerdaCapi.Throttle.LastRequest

/-!
# The throttle of delete requests

Reference: `deleteRequestDue` in `internal/controller/verdamachine_controller.go`.

The throttle remembers a request in an annotation of the object, one for each suffix: the status of the
instance, `@`, and the time as RFC 3339 text. Whatever the annotations hold, the function acts as
`Throttle.ask` does on what can be read from them (`ask_recorded`).

A run of calls is paced if a call that is not held back is due and recorded, due calls for a status do not
come closer than 19 seconds, and the others change nothing. `paced_iff` says for which clocks every run is:
a time of another year than 0 to 9999 is written, but not read back.
-/

namespace VerdaCapi.Controller.DeleteThrottle

open Go Api

/-! ## What is recorded -/

/-- The annotation for a suffix. -/
def deleteRequestedKey (suffix : String) : String :=
  if suffix ≠ "" then deleteRequestedAnnotation ++ "-" ++ suffix else deleteRequestedAnnotation

theorem deleteRequestedKey_injective : Function.Injective deleteRequestedKey := by
  intro suffix suffix' h
  have hlists := congrArg String.toList h
  unfold deleteRequestedKey at hlists
  by_cases hs : suffix = "" <;> by_cases hs' : suffix' = ""
  · rw [hs, hs']
  · simp [hs, hs', String.toList_append] at hlists
  · simp [hs, hs', String.toList_append] at hlists
  · exact String.toList_injective (by simpa [hs, hs', String.toList_append] using hlists)

/-- The status recorded for a suffix. -/
def recordedStatus (m : ObjectMeta) (suffix : String) : Option String :=
  (cut (m.annotations.get (deleteRequestedKey suffix)) '@').map Prod.fst

/-- The time recorded for a suffix, as far as it can be read. -/
def recordedTime (m : ObjectMeta) (suffix : String) : Option Time :=
  (cut (m.annotations.get (deleteRequestedKey suffix)) '@').bind fun r => parseRFC3339 r.2

/-- What the annotations remember. -/
def recorded (m : ObjectMeta) : Throttle.Memory String String Time := fun suffix =>
  (recordedStatus m suffix).bind fun status => (recordedTime m suffix).map fun last => (status, last)

theorem recorded_eq_some {m : ObjectMeta} {suffix status : String} {last : Time} :
    recorded m suffix = some (status, last) ↔
      recordedStatus m suffix = some status ∧ recordedTime m suffix = some last := by
  simp [recorded, Option.bind_eq_some_iff]

/-! ## One call -/

/-- The two moments at which a call reads the clock. -/
structure Reading where
  since : Time
  now : Time
deriving DecidableEq

/-- A call of `deleteRequestDue` on the object. -/
structure Call extends Reading where
  suffix : String
  status : String
deriving DecidableEq

/-- Make a call. -/
def ask (m : ObjectMeta) (c : Call) : Bool × ObjectMeta :=
  deleteRequestDue c.now m c.suffix c.status c.since

/-- The call as a request to the throttle. -/
def Call.request (c : Call) : Throttle.Request String String Time where
  key := c.suffix
  state := c.status
  since := c.since
  now := c.now

/-- What is read back of a time that was recorded. -/
def stamp (t : Time) : Option Time := parseRFC3339 (formatRFC3339 t)

/-- The object with the call recorded. -/
def recordCall (m : ObjectMeta) (c : Call) : ObjectMeta :=
  { m with
    annotations :=
      m.annotations.set (deleteRequestedKey c.suffix) (c.status ++ "@" ++ formatRFC3339 c.now) }

section

variable {m : ObjectMeta} {c : Call}

/-- A call waits for the recorded one, or is due and recorded. -/
theorem ask_eq : ask m c =
    if Throttle.Waits deleteRetryInterval (recorded m) c.request then (false, m)
    else (true, recordCall m c) := by
  unfold ask deleteRequestDue Throttle.Waits recorded recordedStatus recordedTime
  rw [← deleteRequestedKey]
  cases hcut : cut (m.annotations.get (deleteRequestedKey c.suffix)) '@' with
  | none => simp [Call.request, hcut, recordCall]
  | some r =>
    obtain ⟨lastState, lastAt⟩ := r
    cases hparse : parseRFC3339 lastAt with
    | none => simp [Call.request, hcut, hparse, recordCall]
    | some last => simp [Call.request, hcut, hparse, recordCall]

theorem ask_due_iff :
    (ask m c).1 = true ↔ ¬ Throttle.Waits deleteRetryInterval (recorded m) c.request := by
  rw [ask_eq]
  split <;> simp [*]

theorem ask_of_due (h : (ask m c).1 = true) : (ask m c).2 = recordCall m c := by
  rw [ask_eq, if_neg (ask_due_iff.1 h)]

/-- A call that is not due leaves the object as it is. -/
theorem ask_of_not_due (h : (ask m c).1 = false) : (ask m c).2 = m := by
  have hwaits : Throttle.Waits deleteRetryInterval (recorded m) c.request := by
    by_contra hnot
    rw [ask_due_iff.2 hnot] at h
    cases h
  rw [ask_eq, if_pos hwaits]

/-- The annotations of other suffixes stay. -/
theorem get_ask_of_ne {suffix : String} (h : suffix ≠ c.suffix) :
    (ask m c).2.annotations.get (deleteRequestedKey suffix) =
      m.annotations.get (deleteRequestedKey suffix) := by
  have hkey : deleteRequestedKey suffix ≠ deleteRequestedKey c.suffix :=
    fun heq => h (deleteRequestedKey_injective heq)
  cases hdue : (ask m c).1 with
  | false => rw [ask_of_not_due hdue]
  | true => rw [ask_of_due hdue, recordCall, StrMap.get, StrMap.lookup_set_ne _ _ hkey, StrMap.get]

/-- The annotation of a due call is taken apart as it was put together. -/
theorem cut_ask (hstatus : '@' ∉ c.status.toList) (h : (ask m c).1 = true) :
    cut ((ask m c).2.annotations.get (deleteRequestedKey c.suffix)) '@' =
      some (c.status, formatRFC3339 c.now) := by
  rw [ask_of_due h, recordCall, StrMap.get, StrMap.lookup_set_self]
  exact cut_append rfl hstatus

theorem recordedStatus_ask (hstatus : '@' ∉ c.status.toList) (h : (ask m c).1 = true) :
    recordedStatus (ask m c).2 c.suffix = some c.status := by
  rw [recordedStatus, cut_ask hstatus h]
  rfl

theorem recordedTime_ask (hstatus : '@' ∉ c.status.toList) (h : (ask m c).1 = true) :
    recordedTime (ask m c).2 c.suffix = stamp c.now := by
  rw [recordedTime, cut_ask hstatus h, Option.bind_some, stamp]

/-- The calls act on the annotations as requests to the throttle act on what is recorded there. -/
theorem ask_recorded (hstatus : '@' ∉ c.status.toList) :
    Throttle.ask deleteRetryInterval stamp (recorded m) c.request =
      ((ask m c).1, recorded (ask m c).2) := by
  by_cases hwaits : Throttle.Waits deleteRetryInterval (recorded m) c.request
  · rw [Throttle.ask_of_waits hwaits, ask_eq, if_pos hwaits]
  · have hdue : (ask m c).1 = true := ask_due_iff.2 hwaits
    rw [Throttle.ask_of_not_waits hwaits, hdue]
    refine congrArg (Prod.mk true) (funext fun suffix => ?_)
    by_cases hs : suffix = c.suffix
    · subst hs
      simp only [recorded, recordedStatus_ask hstatus hdue, recordedTime_ask hstatus hdue, Call.request,
        Function.update_self, Option.bind_some]
    · simp only [recorded, recordedStatus, recordedTime, get_ask_of_ne hs, Call.request,
        Function.update_of_ne hs]

end

/-! ## Runs -/

/-- Which calls count for whether two due calls are successive ones: all calls for the suffix, or only
those that are for the same status as well. -/
inductive Successive where
  | ofSuffix
  | ofStatus
deriving DecidableEq

/-- The call `c'` counts next to the call `c`. -/
def Successive.Counts : Successive → Call → Call → Prop
  | .ofSuffix, c, c' => c'.suffix = c.suffix
  | .ofStatus, c, c' => c'.suffix = c.suffix ∧ c'.status = c.status

/-- Two successive due calls for a suffix and a status are more than 19 seconds apart. -/
def Spaced (s : Successive) (run : List (Throttle.Entry ObjectMeta Call)) : Prop :=
  ∀ (pre mid post : List (Throttle.Entry ObjectMeta Call)) (a b : Throttle.Entry ObjectMeta Call),
    run = pre ++ a :: (mid ++ b :: post) → a.due = true → b.due = true →
    b.request.suffix = a.request.suffix → b.request.status = a.request.status →
    (∀ e ∈ mid, s.Counts a.request e.request → e.due = false) →
    19 * second < b.request.since - a.request.now

/-- The delete requests of a run neither flood nor starve. -/
structure Throttled (s : Successive) (run : List (Throttle.Entry ObjectMeta Call)) : Prop where
  /-- A call for another status than the recorded one, or an interval after the recorded time, is due and
  recorded. -/
  due : ∀ e ∈ run,
    (recordedStatus e.before e.request.suffix ≠ some e.request.status ∨
      ∃ last, recordedTime e.before e.request.suffix = some last ∧
        last + deleteRetryInterval ≤ e.request.since) →
    e.due = true ∧ recordedStatus e.after e.request.suffix = some e.request.status ∧
      recordedTime e.after e.request.suffix = some (wholeSecond e.request.now)
  /-- The record of another suffix stays. -/
  others : ∀ e ∈ run, ∀ suffix, suffix ≠ e.request.suffix →
    e.after.annotations.get (deleteRequestedKey suffix) =
      e.before.annotations.get (deleteRequestedKey suffix)
  spaced : Spaced s run
  /-- A call that is not due changes no annotation. -/
  kept : ∀ e ∈ run, e.due = false → e.after.annotations = e.before.annotations

/-- On this clock every run is throttled, from any annotations on and for any suffixes and statuses. -/
def Paced (s : Successive) (clock : List Reading) : Prop :=
  ∀ (m : ObjectMeta) (calls : List Call), calls.map Call.toReading = clock →
    (∀ c ∈ calls, '@' ∉ c.status.toList) → Throttled s (Throttle.entries ask m calls)

/-- The time can be written in RFC 3339. -/
def FourDigitYear (t : Time) : Prop := 0 ≤ year t ∧ year t ≤ 9999

instance (t : Time) : Decidable (FourDigitYear t) := inferInstanceAs (Decidable (_ ∧ _))

theorem stamp_eq_some_iff {t last : Time} :
    stamp t = some last ↔ FourDigitYear t ∧ wholeSecond t = last := by
  rw [stamp, parseRFC3339_formatRFC3339]
  split <;> simp_all [FourDigitYear]

section

variable {m : ObjectMeta} {c : Call}

theorem ask_due_of_changed (h : recordedStatus m c.suffix ≠ some c.status) : (ask m c).1 = true := by
  refine ask_due_iff.2 ?_
  rintro ⟨⟨status, last⟩, hmem, hsame, -⟩
  have hrecorded := (recorded_eq_some.1 hmem).1
  exact h (hrecorded.trans (congrArg some hsame))

theorem ask_due_of_late {last : Time} (hlast : recordedTime m c.suffix = some last)
    (hlate : last + deleteRetryInterval ≤ c.since) : (ask m c).1 = true := by
  refine ask_due_iff.2 ?_
  rintro ⟨⟨status, last'⟩, hmem, -, hrecent⟩
  have heq : some last = some last' := hlast.symm.trans (recorded_eq_some.1 hmem).2
  cases heq
  exact absurd hlate (not_le.2 (sub_lt_iff_lt_add'.1 hrecent))

variable {calls : List Call} {run pre mid post : List (Throttle.Entry ObjectMeta Call)}
  {a b : Throttle.Entry ObjectMeta Call}

theorem request_mem (hrun : Throttle.entries ask m calls = run) (ha : a ∈ run) : a.request ∈ calls := by
  have hmem : a.request ∈ (Throttle.entries ask m calls).map Throttle.Entry.request :=
    List.mem_map_of_mem (hrun ▸ ha)
  rwa [Throttle.map_request_entries] at hmem

/-- The rule of the throttle, for the calls. -/
theorem spaced_of_year (hstatus : ∀ c ∈ calls, '@' ∉ c.status.toList)
    (hrun : Throttle.entries ask m calls = pre ++ a :: (mid ++ b :: post))
    (hyear : FourDigitYear a.request.now) (ha : a.due = true)
    (hb : b.due = true) (hsuffix : b.request.suffix = a.request.suffix)
    (hsame : b.request.status = a.request.status)
    (hmid : ∀ e ∈ mid, e.request.suffix = a.request.suffix → e.due = false) :
    19 * second < b.request.since - a.request.now := by
  have hsim := @Throttle.entries_map _ _ _ _ ask m calls
    (Throttle.ask deleteRetryInterval stamp) recorded Call.request fun m c hc => ask_recorded (hstatus c hc)
  rw [hrun, List.map_append, List.map_cons, List.map_append, List.map_cons] at hsim
  have hmid' : ∀ e ∈ mid.map (Throttle.Entry.map recorded Call.request),
      e.request.key = a.request.suffix → e.due = false := by
    intro e he hkey
    obtain ⟨e₀, he₀, rfl⟩ := List.mem_map.1 he
    exact hmid e₀ he₀ hkey
  have hspaced := Throttle.spaced hsim hsuffix hsame ha hb hmid' (stamp_eq_some_iff.2 ⟨hyear, rfl⟩)
    (lt_wholeSecond_add a.request.now)
  have hinterval : deleteRetryInterval - second = 19 * second := by decide
  rw [hinterval] at hspaced
  exact hspaced

/-- All but the distance of due calls holds in every run. -/
theorem throttled_of_years {s : Successive} (hyears : ∀ c ∈ calls, FourDigitYear c.now)
    (hstatus : ∀ c ∈ calls, '@' ∉ c.status.toList)
    (hspaced : Spaced s (Throttle.entries ask m calls)) :
    Throttled s (Throttle.entries ask m calls) where
  due e he hfree := by
    obtain ⟨m, c, hc, rfl⟩ := Throttle.exists_entry_of_mem he
    have hdue : (ask m c).1 = true := by
      rcases hfree with hchanged | ⟨last, hlast, hlate⟩
      · exact ask_due_of_changed hchanged
      · exact ask_due_of_late hlast hlate
    have htime := recordedTime_ask (hstatus c hc) hdue
    rw [stamp_eq_some_iff.2 ⟨hyears c hc, rfl⟩] at htime
    exact ⟨hdue, recordedStatus_ask (hstatus c hc) hdue, htime⟩
  others e he suffix hne := by
    obtain ⟨m, c, -, rfl⟩ := Throttle.exists_entry_of_mem he
    exact get_ask_of_ne hne
  spaced := hspaced
  kept e he hnot := by
    obtain ⟨m, c, -, rfl⟩ := Throttle.exists_entry_of_mem he
    exact congrArg ObjectMeta.annotations (ask_of_not_due hnot)

end

/-! ## Clocks on which every run is throttled -/

/-- A call at a reading of the clock. -/
def Reading.call (r : Reading) (suffix status : String) : Call := { r with suffix, status }

/-- Calls that leave the record without suffix alone. -/
def aside (rs : List Reading) : List Call := rs.map fun r => r.call "aside" ""

theorem readings_aside (rs : List Reading) : (aside rs).map Call.toReading = rs := by
  rw [aside, List.map_map]
  exact List.map_id rs

theorem status_aside {rs : List Reading} {c : Call} (hc : c ∈ aside rs) : '@' ∉ c.status.toList := by
  obtain ⟨r, -, rfl⟩ := List.mem_map.1 hc
  simp [Reading.call]

theorem suffix_aside {rs : List Reading} {c : Call} (hc : c ∈ aside rs) : c.suffix ≠ "" := by
  obtain ⟨r, -, rfl⟩ := List.mem_map.1 hc
  simp [Reading.call]

theorem recordedStatus_aside (m : ObjectMeta) (rs : List Reading) :
    recordedStatus (Throttle.final ask m (aside rs)) "" = recordedStatus m "" := by
  refine Throttle.final_of_keeps (P := fun m' => recordedStatus m' "" = recordedStatus m "") rfl ?_
  intro e he hbefore
  obtain ⟨m', c, hc, rfl⟩ := Throttle.exists_entry_of_mem he
  rw [← hbefore]
  exact congrArg (fun text => (cut text '@').map Prod.fst) (get_ask_of_ne (suffix_aside hc).symm)

/-- An object without annotations. -/
def blank : ObjectMeta := { name := "" }

theorem recordedStatus_blank : recordedStatus blank "" = none := rfl

/-- A time that is not read back breaks the first call for a suffix. -/
theorem year_of_paced {s : Successive} {clock : List Reading} (h : Paced s clock) {r : Reading}
    (hr : r ∈ clock) : FourDigitYear r.now := by
  obtain ⟨before, after, rfl⟩ := List.append_of_mem hr
  have hstatus : ∀ c ∈ aside before ++ r.call "" "" :: aside after, '@' ∉ c.status.toList := by
    intro c hc
    rcases List.mem_append.1 hc with hc | hc
    · exact status_aside hc
    · rcases List.mem_cons.1 hc with rfl | hc
      · simp [Reading.call]
      · exact status_aside hc
  have hthrottled := h blank (aside before ++ r.call "" "" :: aside after)
    (by rw [List.map_append, List.map_cons, readings_aside, readings_aside]; rfl) hstatus
  rw [Throttle.entries_append] at hthrottled
  have hfresh : recordedStatus (Throttle.final ask blank (aside before)) "" ≠ some "" := by
    rw [recordedStatus_aside, recordedStatus_blank]
    exact (Option.some_ne_none "").symm
  obtain ⟨hdue, -, htime⟩ :=
    hthrottled.due _ (List.mem_append_right _ List.mem_cons_self) (.inl hfresh)
  have hstamp := recordedTime_ask (hstatus (r.call "" "") (by simp)) hdue
  exact (stamp_eq_some_iff.1 (hstamp.symm.trans htime)).1

/-- A call for a status that is not recorded is due, and then the status is. -/
theorem ask_changed {m : ObjectMeta} (r : Reading) (status : String) (hstatus : '@' ∉ status.toList)
    (h : recordedStatus m "" ≠ some status) :
    (ask m (r.call "" status)).1 = true ∧
      recordedStatus (ask m (r.call "" status)).2 "" = some status := by
  have hdue : (ask m (r.call "" status)).1 = true := @ask_due_of_changed m (r.call "" status) h
  exact ⟨hdue, @recordedStatus_ask m (r.call "" status) hstatus hdue⟩

/-- A status that changes and changes back is asked for twice, however soon. -/
theorem spread_of_paced {l₁ l₂ l₃ l₄ : List Reading} {r₁ r₂ r₃ : Reading}
    (h : Paced .ofStatus (l₁ ++ r₁ :: (l₂ ++ r₂ :: (l₃ ++ r₃ :: l₄)))) :
    19 * second < r₃.since - r₁.now := by
  obtain ⟨between, hbetween⟩ : ∃ between, between = aside l₂ ++ r₂.call "" "offline" :: aside l₃ :=
    ⟨_, rfl⟩
  have hother : ∀ c ∈ between, '@' ∉ c.status.toList ∧ ¬ (c.suffix = "" ∧ c.status = "running") := by
    rw [hbetween]
    simp only [List.mem_append, List.mem_cons]
    rintro c (hc | rfl | hc)
    · exact ⟨status_aside hc, fun hcounts => suffix_aside hc hcounts.1⟩
    · simp [Reading.call]
    · exact ⟨status_aside hc, fun hcounts => suffix_aside hc hcounts.1⟩
  have hstatus : ∀ c ∈ aside l₁ ++ r₁.call "" "running" :: (between ++ r₃.call "" "running" :: aside l₄),
      '@' ∉ c.status.toList := by
    simp only [List.mem_append, List.mem_cons]
    rintro c (hc | rfl | hc | rfl | hc)
    · exact status_aside hc
    · simp [Reading.call]
    · exact (hother c hc).1
    · simp [Reading.call]
    · exact status_aside hc
  have hclock : (aside l₁ ++ r₁.call "" "running" :: (between ++ r₃.call "" "running" :: aside l₄)).map
      Call.toReading = l₁ ++ r₁ :: (l₂ ++ r₂ :: (l₃ ++ r₃ :: l₄)) := by
    simp only [hbetween, List.map_append, List.map_cons, readings_aside, List.append_assoc,
      List.cons_append]
    rfl
  have hthrottled := h blank _ hclock hstatus
  rw [Throttle.entries_append, Throttle.entries, Throttle.entries_append, Throttle.entries] at hthrottled
  generalize hm₁ : Throttle.final ask blank (aside l₁) = m₁ at hthrottled
  have hblank : recordedStatus m₁ "" = none := by
    rw [← hm₁, recordedStatus_aside, recordedStatus_blank]
  obtain ⟨hfirst, hrunning⟩ := ask_changed r₁ "running" (by decide) (by rw [hblank]; decide)
  generalize (ask m₁ (r₁.call "" "running")).2 = m₂ at hthrottled hrunning
  have hoffline : recordedStatus (Throttle.final ask m₂ between) "" = some "offline" := by
    rw [hbetween, Throttle.final_append, Throttle.final, recordedStatus_aside]
    exact (ask_changed r₂ "offline" (by decide) (by rw [recordedStatus_aside, hrunning]; decide)).2
  obtain ⟨hlast, -⟩ := ask_changed r₃ "running" (by decide) (by rw [hoffline]; decide)
  refine hthrottled.spaced _ _ _ _ _ rfl hfirst hlast rfl rfl ?_
  intro e he hcounts
  obtain ⟨m, c, hc, rfl⟩ := Throttle.exists_entry_of_mem he
  exact absurd hcounts (hother c hc).2

/-- Three elements in their order, and what lies between them. -/
theorem exists_of_sublist_three {α : Type} {x y z : α} {l : List α} (h : [x, y, z].Sublist l) :
    ∃ l₁ l₂ l₃ l₄, l = l₁ ++ x :: (l₂ ++ y :: (l₃ ++ z :: l₄)) := by
  obtain ⟨lx, rest, rfl, hx, hrest⟩ := List.cons_sublist_iff.1 h
  obtain ⟨ly, lz, rfl, hy, hz⟩ := List.cons_sublist_iff.1 hrest
  obtain ⟨x₁, x₂, rfl⟩ := List.append_of_mem hx
  obtain ⟨y₁, y₂, rfl⟩ := List.append_of_mem hy
  obtain ⟨z₁, z₂, rfl⟩ := List.append_of_mem (List.singleton_sublist.1 hz)
  exact ⟨x₁, x₂ ++ y₁, y₂ ++ z₁, z₂, by simp⟩

/-- For which clocks every run is throttled. Whichever calls count for what is successive, the times that
are recorded have to be of the years 0 to 9999. If only calls for the same status count, a status can
change back in between, and no three calls may come within 19 seconds. The clock may even go back. -/
theorem paced_iff (s : Successive) (clock : List Reading) :
    Paced s clock ↔
      (∀ r ∈ clock, FourDigitYear r.now) ∧
        (s = .ofStatus → ∀ r₁ r₂ r₃, [r₁, r₂, r₃].Sublist clock → 19 * second < r₃.since - r₁.now) := by
  constructor
  · intro h
    refine ⟨fun r hr => year_of_paced h hr, ?_⟩
    rintro rfl r₁ r₂ r₃ hsub
    obtain ⟨l₁, l₂, l₃, l₄, rfl⟩ := exists_of_sublist_three hsub
    exact spread_of_paced h
  · rintro ⟨hyears, hspread⟩ m calls rfl hstatus
    have hcalls : ∀ c ∈ calls, FourDigitYear c.now := fun c hc => hyears _ (List.mem_map_of_mem hc)
    refine throttled_of_years hcalls hstatus ?_
    intro pre mid post a b hrun ha hb hsuffix hsame hmid
    have hyear := hcalls a.request (request_mem hrun (by simp))
    cases s with
    | ofSuffix => exact spaced_of_year hstatus hrun hyear ha hb hsuffix hsame hmid
    | ofStatus =>
      cases mid with
      | nil => exact spaced_of_year hstatus hrun hyear ha hb hsuffix hsame (by simp)
      | cons e mid =>
        refine hspread rfl a.request.toReading e.request.toReading b.request.toReading ?_
        rw [← @Throttle.map_request_entries _ _ ask m calls, hrun]
        simp

/-- The first moment of the year 2026. -/
def year2026 : Time := 1767225600 * second

/-- The first moment of the year 10000. -/
def year10000 : Time := 253402300800 * second

/-- Three readings within ten seconds of the year 2026 pace every run if all calls for the suffix count, and
two do in either case. A reading of the year 10000 does not. -/
theorem paced_iff_sample :
    Paced .ofSuffix [⟨year2026, year2026⟩, ⟨year2026 + 5 * second, year2026 + 6 * second⟩,
      ⟨year2026 + 10 * second, year2026 + 10 * second⟩] ∧
    Paced .ofStatus [⟨year2026, year2026⟩, ⟨year2026 + 5 * second, year2026 + 6 * second⟩] ∧
    ¬ Paced .ofSuffix [⟨year10000, year10000⟩] := by
  refine ⟨(paced_iff _ _).2 ⟨by decide, ?_⟩, (paced_iff _ _).2 ⟨by decide, ?_⟩, fun h => ?_⟩
  · intro hstatus
    cases hstatus
  · intro _ r₁ r₂ r₃ hsub
    exact absurd hsub.length_le (by simp)
  · exact absurd ((paced_iff _ _).1 h).1 (by decide)

/-- Three calls within ten seconds of the year 2026, the last one for the status of the first one. -/
def flipRun : List Call :=
  [⟨⟨year2026, year2026⟩, "", "running"⟩,
    ⟨⟨year2026 + 5 * second, year2026 + 5 * second⟩, "", "offline"⟩,
    ⟨⟨year2026 + 10 * second, year2026 + 10 * second⟩, "", "running"⟩]

/-- All three are due: the one in between has replaced what was recorded of the first. -/
theorem flipRun_not_throttled :
    (Throttle.entries ask blank flipRun).map (·.due) = [true, true, true] ∧
      ¬ Throttled .ofStatus (Throttle.entries ask blank flipRun) := by
  refine ⟨by decide, fun h => ?_⟩
  have hspaced := h.spaced [] [_] [] _ _ rfl (by decide) (by decide) rfl rfl (by
    rintro e he ⟨-, hsame⟩
    cases List.mem_singleton.1 he
    exact absurd hsame (by decide))
  exact absurd hspaced (by decide)

end VerdaCapi.Controller.DeleteThrottle
