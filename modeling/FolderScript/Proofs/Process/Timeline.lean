/-
What happens on the streams of a life, in its order: a stream ends after all
that is written to it by then and before all that comes later.  So the happenings
up to a deadline tell which streams have ended by then, which failed read of a stream
comes first and before its end, and what has been written to a stream that has ended.
-/
import FolderScript.Process.Life
import Mathlib.Data.List.TakeWhile

namespace FolderScript

namespace Happening

def bytesFor (side : Side) : Happening → Bytes
  | .written other data => if other = side then data else []
  | .closed _ | .readFails .. => []

theorem place_le_closed_iff (time close : Nat) (happening : Happening) (side : Side) :
    place (time, happening) ≤ place (close, .closed side) ↔ time ≤ close := by
  have hrank : happening.rank ≤ 1 := by cases happening <;> simp [rank]
  have hclosed : (closed side).rank = 1 := rfl
  simp only [place, hclosed]
  omega

theorem closed_place_le_iff (close time : Nat) {happening : Happening} (side : Side)
    (h : happening.rank = 0) :
    place (close, .closed side) ≤ place (time, happening) ↔ close < time := by
  have hclosed : (closed side).rank = 1 := rfl
  simp only [place, hclosed, h]
  omega

theorem place_le_place_iff (time other : Nat) {happening later : Happening}
    (h : happening.rank = 0) (hlater : later.rank = 0) :
    place (time, happening) ≤ place (other, later) ↔ time ≤ other := by
  simp only [place, h, hlater]
  omega

/-- The first read of a side that fails, if the side does not end before it. -/
def faultOn (side : Side) : List Happening → Option IoError
  | [] => none
  | .written .. :: rest => faultOn side rest
  | .closed other :: rest => if other = side then none else faultOn side rest
  | .readFails other error :: rest => if other = side then some error else faultOn side rest

theorem exists_of_faultOn {side : Side} {happenings : List Happening} {error : IoError}
    (h : faultOn side happenings = some error) :
    ∃ before after, happenings = before ++ .readFails side error :: after ∧
      .closed side ∉ before ∧ ∀ other, .readFails side other ∉ before := by
  induction happenings with
  | nil => contradiction
  | cons happening rest ih =>
      have hskip (hrest : faultOn side rest = some error) (hclosed : happening ≠ .closed side)
          (hfails : ∀ other, happening ≠ .readFails side other) :
          ∃ before after, happening :: rest = before ++ .readFails side error :: after ∧
            .closed side ∉ before ∧ ∀ other, .readFails side other ∉ before := by
        obtain ⟨before, after, rfl, hopen, hfirst⟩ := ih hrest
        refine ⟨happening :: before, after, rfl, ?_, fun other => ?_⟩
        · rw [List.mem_cons, not_or]
          exact ⟨hclosed.symm, hopen⟩
        · rw [List.mem_cons, not_or]
          exact ⟨(hfails other).symm, hfirst other⟩
      cases happening with
      | written other data => exact hskip h (by simp) (by simp)
      | closed other =>
          by_cases hside : other = side
          · simp [faultOn, hside] at h
          · rw [faultOn, if_neg hside] at h
            exact hskip h (by simpa using hside) (by simp)
      | readFails other fault =>
          by_cases hside : other = side
          · subst hside
            rw [faultOn, if_pos rfl, Option.some.injEq] at h
            exact ⟨[], rest, by rw [h, List.nil_append], by simp, by simp⟩
          · rw [faultOn, if_neg hside] at h
            exact hskip h (by simp) (by simp [hside])

theorem faultOn_ne_none {side : Side} {before : List Happening} (error : IoError)
    (after : List Happening) (h : .closed side ∉ before) :
    faultOn side (before ++ .readFails side error :: after) ≠ none := by
  induction before with
  | nil => simp [faultOn]
  | cons happening rest ih =>
      rw [List.mem_cons, not_or] at h
      rw [List.cons_append]
      cases happening with
      | written other data => exact ih h.2
      | closed other =>
          have hne : other ≠ side := fun heq => h.1 (heq ▸ rfl)
          rw [faultOn, if_neg hne]
          exact ih h.2
      | readFails other fault =>
          rw [faultOn]
          split
          · simp
          · exact ih h.2

def writtenTo (side : Side) (happenings : List Happening) : Bytes :=
  (happenings.takeWhile fun happening => decide (happening ≠ .closed side)).flatMap
    (bytesFor side)

end Happening

namespace Life

/-- A stream has been let go of by all its holders, and in time. -/
def IsClosedBy (life : Life) (deadline : Option Duration) (side : Side) : Prop :=
  ∃ time, life.closesAt side = some time ∧ inTime deadline time = true

/-- A read that fails in time, and before the stream is at its end. -/
def Meets (life : Life) (deadline : Option Duration) (error : IoError) : Prop :=
  ∃ time side, (time, side, error) ∈ life.readFaults ∧ inTime deadline time = true ∧
    ∀ close, life.closesAt side = some close → time ≤ close

/-- The first read of a side that fails, in time and before the stream is at its end. -/
def FailsFirst (life : Life) (deadline : Option Duration) (side : Side) (error : IoError) :
    Prop :=
  ∃ time, (time, side, error) ∈ life.readFaults ∧ inTime deadline time = true ∧
    (∀ close, life.closesAt side = some close → time ≤ close) ∧
    ∀ other cause, (other, side, cause) ∈ life.readFaults → time ≤ other

/-- The child ends in time, in this way. -/
def EndsBy (life : Life) (deadline : Option Duration) (ending : Ending) : Prop :=
  ∃ time, life.ending = some (time, ending) ∧ inTime deadline time = true

/-- Both streams end in time, and so does the child, in this way. -/
structure IsDoneBy (life : Life) (deadline : Option Duration) (ending : Ending) : Prop where
  closed : ∀ side, life.IsClosedBy deadline side
  ended : life.EndsBy deadline ending

/-- The bytes that are written to a stream while anyone holds it, in order of
time. -/
def written (life : Life) (side : Side) : Bytes :=
  (life.timeline.filter fun moment =>
    (life.closesAt side).all fun close => decide (moment.1 ≤ close)).flatMap
    fun moment => moment.2.bytesFor side

theorem EndsBy.unique {life : Life} {deadline : Option Duration} {first second : Ending}
    (hfirst : life.EndsBy deadline first) (hsecond : life.EndsBy deadline second) :
    first = second := by
  obtain ⟨_, hfirst, -⟩ := hfirst
  obtain ⟨_, hsecond, -⟩ := hsecond
  rw [hfirst, Option.some.injEq, Prod.mk.injEq] at hsecond
  exact hsecond.2

theorem inTime_max_iff {deadline : Option Duration} (first second : Duration) :
    inTime deadline (max first second) = true ↔
      inTime deadline first = true ∧ inTime deadline second = true := by
  cases deadline with
  | none => simp [inTime]
  | some limit =>
      simp only [inTime, decide_eq_true_eq]
      exact Nat.max_le

theorem inTime_of_le {deadline : Option Duration} {first last : Duration} (h : first ≤ last)
    (hlast : inTime deadline last = true) : inTime deadline first = true := by
  cases deadline with
  | none => rfl
  | some limit =>
      simp only [inTime, decide_eq_true_eq] at hlast ⊢
      exact Nat.le_trans h hlast

theorem pairwise_timeline (life : Life) :
    life.timeline.Pairwise fun first second =>
      Happening.place first ≤ Happening.place second := by
  have hsorted := @List.pairwise_mergeSort (Duration × Happening)
    (fun left right => decide (Happening.place left ≤ Happening.place right))
    (by
      intro first second third hfirst hsecond
      simp only [decide_eq_true_eq] at hfirst hsecond ⊢
      exact Nat.le_trans hfirst hsecond)
    (by
      intro first second
      simp only [Bool.or_eq_true, decide_eq_true_eq]
      exact Nat.le_total _ _)
  simpa only [timeline, decide_eq_true_eq] using hsorted _

theorem closed_mem_timeline_iff {life : Life} {time : Duration} {side : Side} :
    (time, .closed side) ∈ life.timeline ↔ life.closesAt side = some time := by
  simp only [timeline, List.mem_mergeSort, List.mem_append]
  cases side <;> simp [eq_comm]

theorem readFails_mem_timeline_iff {life : Life} {time : Duration} {side : Side}
    {error : IoError} :
    (time, .readFails side error) ∈ life.timeline ↔ (time, side, error) ∈ life.readFaults := by
  have hfault : (∃ fault ∈ life.readFaults,
      (fault.1, Happening.readFails fault.2.1 fault.2.2) = (time, .readFails side error)) ↔
        (time, side, error) ∈ life.readFaults := by
    constructor
    · rintro ⟨⟨_, _, _⟩, hmem, heq⟩
      simp only [Prod.mk.injEq, Happening.readFails.injEq] at heq
      obtain ⟨rfl, rfl, rfl⟩ := heq
      exact hmem
    · intro hmem
      exact ⟨_, hmem, rfl⟩
  rw [← hfault, timeline, List.mem_mergeSort]
  simp

/-- A moment in time is among those up to a deadline, with what comes before it
and after it in the order of the timeline. -/
theorem exists_split {life : Life} {deadline : Option Duration} {time : Duration}
    {happening : Happening} (hmem : (time, happening) ∈ life.timeline)
    (htime : inTime deadline time = true) :
    ∃ before after : List (Duration × Happening),
      (life.timeline.filter fun moment => inTime deadline moment.1) =
        before ++ (time, happening) :: after ∧ (time, happening) ∉ before := by
  have hfilter : (time, happening) ∈
      life.timeline.filter fun moment => inTime deadline moment.1 :=
    List.mem_filter.mpr ⟨hmem, htime⟩
  exact List.eq_append_cons_of_mem hfilter

theorem closed_mem_happenings_iff {life : Life} {deadline : Option Duration} {side : Side} :
    .closed side ∈ life.happenings deadline ↔ life.IsClosedBy deadline side := by
  simp only [happenings, List.mem_map, List.mem_filter, IsClosedBy]
  constructor
  · rintro ⟨⟨time, _⟩, ⟨hmem, htime⟩, rfl⟩
    exact ⟨time, closed_mem_timeline_iff.mp hmem, htime⟩
  · rintro ⟨time, hclose, htime⟩
    exact ⟨(time, .closed side), ⟨closed_mem_timeline_iff.mpr hclose, htime⟩, rfl⟩

/-- The first failed read of a side among the happenings up to a deadline fails in time, not
after the end of its stream, and not after any other. -/
theorem failsFirst_of_faultOn {life : Life} {deadline : Option Duration} {side : Side}
    {error : IoError} (h : Happening.faultOn side (life.happenings deadline) = some error) :
    life.FailsFirst deadline side error := by
  have hsorted := life.pairwise_timeline.filter fun moment => inTime deadline moment.1
  obtain ⟨before, after, hsplit, hopen, hfirst⟩ := Happening.exists_of_faultOn h
  obtain ⟨front, rest, hfilter, rfl, hrest⟩ := List.map_eq_append_iff.mp hsplit
  obtain ⟨⟨time, _⟩, back, rfl, rfl, -⟩ := List.map_eq_cons_iff.mp hrest
  have hmem : (time, Happening.readFails side error) ∈
      life.timeline.filter fun moment => inTime deadline moment.1 := by
    simp [hfilter]
  obtain ⟨hfault, htime⟩ := List.mem_filter.mp hmem
  refine ⟨time, readFails_mem_timeline_iff.mp hfault, htime, fun close hclose => ?_,
    fun other cause hother => ?_⟩
  · by_contra hnot
    have hlate : close < time := Nat.lt_of_not_le hnot
    have hclosed : (close, Happening.closed side) ∈
        life.timeline.filter fun moment => inTime deadline moment.1 :=
      List.mem_filter.mpr ⟨closed_mem_timeline_iff.mpr hclose,
        inTime_of_le (Nat.le_of_lt hlate) htime⟩
    rw [hfilter] at hclosed hsorted
    rcases List.mem_append.mp hclosed with hfront | hback
    · exact hopen (List.mem_map.mpr ⟨_, hfront, rfl⟩)
    · rcases List.mem_cons.mp hback with heq | hback
      · simp at heq
      · have hplace := (List.pairwise_cons.mp (List.pairwise_append.mp hsorted).2.1).1 _ hback
        exact hnot ((Happening.place_le_closed_iff time close _ side).mp hplace)
  · by_contra hnot
    have hother : (other, Happening.readFails side cause) ∈
        life.timeline.filter fun moment => inTime deadline moment.1 :=
      List.mem_filter.mpr ⟨readFails_mem_timeline_iff.mpr hother,
        inTime_of_le (Nat.le_of_not_le hnot) htime⟩
    rw [hfilter] at hother
    rcases List.mem_append.mp hother with hfront | hback
    · exact hfirst cause (List.mem_map.mpr ⟨_, hfront, rfl⟩)
    · rcases List.mem_cons.mp hback with heq | hback
      · exact hnot (Nat.le_of_eq (Prod.mk.inj heq).1.symm)
      · rw [hfilter] at hsorted
        have hplace := (List.pairwise_cons.mp (List.pairwise_append.mp hsorted).2.1).1 _ hback
        exact hnot ((Happening.place_le_place_iff time other rfl rfl).mp hplace)

theorem FailsFirst.meets {life : Life} {deadline : Option Duration} {side : Side}
    {error : IoError} (h : life.FailsFirst deadline side error) :
    life.Meets deadline error := by
  obtain ⟨time, hfault, htime, hclose, -⟩ := h
  exact ⟨time, side, hfault, htime, hclose⟩

theorem exists_faultOn_of_meets {life : Life} {deadline : Option Duration} {error : IoError}
    (h : life.Meets deadline error) :
    ∃ side, Happening.faultOn side (life.happenings deadline) ≠ none := by
  have hsorted := life.pairwise_timeline.filter fun moment => inTime deadline moment.1
  obtain ⟨time, side, hfault, htime, hclose⟩ := h
  obtain ⟨before, after, hsplit, -⟩ :=
    exists_split (readFails_mem_timeline_iff.mpr hfault) htime
  refine ⟨side, ?_⟩
  rw [happenings, hsplit, List.map_append, List.map_cons]
  apply Happening.faultOn_ne_none
  intro hclosed
  obtain ⟨⟨close, _⟩, hmem, rfl⟩ := List.mem_map.mp hclosed
  have hfilter : (close, Happening.closed side) ∈
      life.timeline.filter fun moment => inTime deadline moment.1 := by
    rw [hsplit]
    exact List.mem_append_left _ hmem
  have hearly := hclose close (closed_mem_timeline_iff.mp (List.mem_filter.mp hfilter).1)
  rw [hsplit] at hsorted
  have hplace := (List.pairwise_append.mp hsorted).2.2 _ hmem _ List.mem_cons_self
  exact Nat.not_le_of_lt ((Happening.closed_place_le_iff close time side rfl).mp hplace) hearly

/-- No side has a failed read among the happenings up to a deadline just if none fails in
time and not after the end of its stream. -/
theorem faultOn_eq_none_iff {life : Life} {deadline : Option Duration} :
    (∀ side, Happening.faultOn side (life.happenings deadline) = none) ↔
      ∀ error, ¬ life.Meets deadline error := by
  constructor
  · intro hnone error hmeets
    obtain ⟨side, hfault⟩ := exists_faultOn_of_meets hmeets
    exact hfault (hnone side)
  · intro hread side
    by_contra hfault
    obtain ⟨error, herror⟩ := Option.ne_none_iff_exists'.mp hfault
    exact hread error (failsFirst_of_faultOn herror).meets

/-- The timeline around the end of a stream: nothing before it is later, and no write
to the stream after it counts. -/
theorem exists_split_closed {life : Life} {side : Side} {close : Duration}
    (h : life.closesAt side = some close) :
    ∃ before after : List (Duration × Happening),
      life.timeline = before ++ (close, .closed side) :: after ∧
      (∀ moment ∈ before, moment.1 ≤ close ∧ moment.2 ≠ .closed side) ∧
      ∀ moment ∈ after, moment.1 ≤ close → moment.2.bytesFor side = [] := by
  obtain ⟨before, after, hsplit, hfirst⟩ :=
    List.eq_append_cons_of_mem (closed_mem_timeline_iff.mpr h)
  have hsorted := life.pairwise_timeline
  rw [hsplit, List.pairwise_append, List.pairwise_cons] at hsorted
  obtain ⟨-, ⟨hafter, -⟩, hbefore⟩ := hsorted
  refine ⟨before, after, hsplit, fun moment hmoment => ⟨?_, ?_⟩, fun moment hmoment hle => ?_⟩
  · have hplace := hbefore moment hmoment _ List.mem_cons_self
    exact (Happening.place_le_closed_iff moment.1 close moment.2 side).mp hplace
  · intro hclosed
    obtain ⟨other, _⟩ := moment
    obtain rfl := hclosed
    have htimeline : (other, Happening.closed side) ∈ life.timeline := by
      rw [hsplit]
      exact List.mem_append_left _ hmoment
    have hother := closed_mem_timeline_iff.mp htimeline
    rw [h, Option.some.injEq] at hother
    exact hfirst (hother ▸ hmoment)
  · obtain ⟨time, happening⟩ := moment
    cases happening with
    | closed other => rfl
    | readFails other error => rfl
    | written other data =>
        have hplace := hafter _ hmoment
        exact absurd hle (Nat.not_le_of_lt
          ((Happening.closed_place_le_iff close time side rfl).mp hplace))

/-- What the happenings up to a deadline bring to a stream that has ended by then is
all that is written to it. -/
theorem writtenTo_happenings {life : Life} {deadline : Option Duration} {side : Side}
    (h : life.IsClosedBy deadline side) :
    Happening.writtenTo side (life.happenings deadline) = life.written side := by
  obtain ⟨close, hclose, htime⟩ := h
  obtain ⟨before, after, hsplit, hbefore, hafter⟩ := exists_split_closed hclose
  have hopen : ∀ happening ∈ before.map Prod.snd, happening ≠ .closed side := by
    intro happening hmem
    obtain ⟨moment, hmoment, rfl⟩ := List.mem_map.mp hmem
    exact (hbefore moment hmoment).2
  have hhappenings : life.happenings deadline = before.map Prod.snd ++ .closed side ::
      (after.filter fun moment => inTime deadline moment.1).map Prod.snd := by
    have hall : (before.filter fun moment => inTime deadline moment.1) = before :=
      List.filter_eq_self.mpr fun moment hmoment =>
        inTime_of_le (hbefore moment hmoment).1 htime
    rw [happenings, hsplit, List.filter_append, hall, List.filter_cons_of_pos (by exact htime),
      List.map_append, List.map_cons]
  have hkept : (before.filter fun moment => decide (moment.1 ≤ close)) = before :=
    List.filter_eq_self.mpr fun moment hmoment => decide_eq_true (hbefore moment hmoment).1
  have hdropped : (after.filter fun moment => decide (moment.1 ≤ close)).flatMap
      (fun moment => moment.2.bytesFor side) = [] := by
    rw [List.flatMap_eq_nil_iff]
    intro moment hmoment
    obtain ⟨hmem, hle⟩ := List.mem_filter.mp hmoment
    exact hafter moment hmem (of_decide_eq_true hle)
  rw [Happening.writtenTo, hhappenings, List.takeWhile_append_of_pos (by simpa using hopen)]
  simp only [written, hclose, hsplit, Option.all_some, List.filter_append, hkept,
    List.flatMap_append]
  rw [List.filter_cons_of_pos (by simp), List.flatMap_cons, hdropped]
  simp [List.flatMap_map, Happening.bytesFor]

end Life

end FolderScript
