/-
What regular expressions span, and that the search for a match finds just that.  Looking
around, back references and calls are left aside: an expression without them is regular.
What is proved of one goal of the search is proved whatever else is still to be met.
-/
import FolderScript.Machine.Shell.Regex
import Mathlib.Tactic.Common

namespace FolderScript.Shell

namespace Regex

/-- Whether an expression says something about a place, and takes nothing up. -/
def isMark : Regex → Bool
  | .empty | .lineStart | .lineEnd | .wordEdge _ _ | .notEdge | .apart _ => true
  | _ => false

/-- Whether an expression takes one character up. -/
def isLetter : Regex → Bool
  | .letter _ | .any | .oneOf _ => true
  | _ => false

/-- How a repetition goes about it. -/
inductive Manner where
  | greedy
  | lazy

/-- The repetition of an expression. -/
def Manner.loop : Manner → Regex → Nat → Option Nat → Regex
  | .greedy => .repeated
  | .lazy => .lazily

/-- An expression is built from marks and letters by sequence, choice and repetition. -/
inductive IsRegular : Regex → Prop
  | mark {regex : Regex} (isMark : regex.isMark = true) : IsRegular regex
  | letter {regex : Regex} (isLetter : regex.isLetter = true) : IsRegular regex
  | sequence {first second : Regex} (before : IsRegular first) (after : IsRegular second) :
      IsRegular (.sequence first second)
  | choice {first second : Regex} (one : IsRegular first) (other : IsRegular second) :
      IsRegular (.choice first second)
  | group {number : Nat} {body : Regex} (own : number ≠ 0) (inside : IsRegular body) :
      IsRegular (.group number body)
  | loop (manner : Manner) {body : Regex} {least : Nat} {most : Option Nat}
      (inside : IsRegular body) : IsRegular (manner.loop body least most)

namespace Subject

/-- Whether an expression takes a character up. -/
def takes (subject : Subject) (char : Char) : Regex → Bool
  | .letter wanted => subject.same wanted char
  | .any => true
  | .oneOf bracket => subject.inBracket bracket char
  | _ => false

/-- Whether there is a character of a word before a place. -/
def isAfterWord (subject : Subject) (index : Nat) : Bool :=
  if index = 0 then false else isWordChar subject.chars[index - 1]?

/-- Whether there is a character of a word after a place. -/
def isBeforeWord (subject : Subject) (index : Nat) : Bool := isWordChar subject.chars[index]?

/-- Whether what an expression says about a place holds there. -/
def marks (subject : Subject) (index : Nat) : Regex → Bool
  | .empty => true
  | .lineStart => index = 0 || (subject.hasLines && subject.chars[index - 1]? == some '\n')
  | .lineEnd =>
      index = subject.chars.size || (subject.hasLines && subject.chars[index]? == some '\n')
  | .wordEdge front back =>
      (front && !subject.isAfterWord index && subject.isBeforeWord index) ||
        (back && subject.isAfterWord index && !subject.isBeforeWord index)
  | .notEdge => subject.isAfterWord index == subject.isBeforeWord index
  | .apart isBefore =>
      if isBefore then !subject.isAfterWord index else !subject.isBeforeWord index
  | _ => false

end Subject

/-- An expression spans a text from one place to another.  A repetition that is not owed
any more has to get on. -/
inductive Spans (subject : Subject) : Regex → Nat → Nat → Prop
  | mark {regex : Regex} {start : Nat} (isMark : regex.isMark = true)
      (holds : subject.marks start regex = true) : Spans subject regex start start
  | letter {regex : Regex} {start : Nat} {char : Char} (isLetter : regex.isLetter = true)
      (stands : subject.chars[start]? = some char) (taken : subject.takes char regex = true) :
      Spans subject regex start (start + 1)
  | sequence {first second : Regex} {start middle stop : Nat}
      (before : Spans subject first start middle) (after : Spans subject second middle stop) :
      Spans subject (.sequence first second) start stop
  | first {first second : Regex} {start stop : Nat} (chosen : Spans subject first start stop) :
      Spans subject (.choice first second) start stop
  | second {first second : Regex} {start stop : Nat} (chosen : Spans subject second start stop) :
      Spans subject (.choice first second) start stop
  | group {number : Nat} {body : Regex} {start stop : Nat}
      (inside : Spans subject body start stop) : Spans subject (.group number body) start stop
  | owed {manner : Manner} {body : Regex} {least : Nat} {most : Option Nat}
      {start middle stop : Nat} (once : Spans subject body start middle)
      (again : Spans subject (manner.loop body least (most.map (· - 1))) middle stop) :
      Spans subject (manner.loop body (least + 1) most) start stop
  | enough {manner : Manner} {body : Regex} {most : Option Nat} {start : Nat} :
      Spans subject (manner.loop body 0 most) start start
  | more {manner : Manner} {body : Regex} {most : Option Nat} {start middle stop : Nat}
      (room : most ≠ some 0) (once : Spans subject body start middle) (progress : start < middle)
      (again : Spans subject (manner.loop body 0 (most.map (· - 1))) middle stop) :
      Spans subject (manner.loop body 0 most) start stop

theorem Manner.loop_inj {manner other : Manner} {body inner : Regex} {least fewest : Nat}
    {most room : Option Nat} (h : manner.loop body least most = other.loop inner fewest room) :
    manner = other ∧ body = inner ∧ least = fewest ∧ most = room := by
  cases manner <;> cases other <;> simp_all [Manner.loop]

theorem Manner.loop_ne {manner : Manner} {body regex : Regex} {least : Nat} {most : Option Nat}
    (h : regex = manner.loop body least most) :
    regex.isMark = false ∧ regex.isLetter = false := by
  subst h
  cases manner <;> exact ⟨rfl, rfl⟩

/-- A repetition spans all that one with less room does. -/
theorem Spans.roomier {subject : Subject} {manner : Manner} {body : Regex}
    {most room : Option Nat} {start stop : Nat}
    (h : Spans subject (manner.loop body 0 most) start stop)
    (hroom : ∀ bound, room = some bound → ∃ less, most = some less ∧ less ≤ bound) :
    Spans subject (manner.loop body 0 room) start stop := by
  generalize hregex : manner.loop body 0 most = regex at h
  induction h generalizing most room with
  | mark isMark _ => simp [(Manner.loop_ne hregex.symm).1] at isMark
  | letter isLetter _ _ => simp [(Manner.loop_ne hregex.symm).2] at isLetter
  | sequence | first | second | group => cases manner <;> contradiction
  | owed _ _ _ _ => simpa using (Manner.loop_inj hregex).2.2.1
  | enough =>
      exact .enough
  | more hmore once progress again _ ihAgain =>
      obtain ⟨rfl, rfl, -, rfl⟩ := Manner.loop_inj hregex
      have hbounded : room ≠ some 0 := by
        rintro rfl
        obtain ⟨less, rfl, hless⟩ := hroom 0 rfl
        exact hmore (congrArg some (Nat.le_zero.mp hless))
      refine .more hbounded once progress (ihAgain (fun bound hbound => ?_) rfl)
      obtain ⟨whole, rfl, rfl⟩ := Option.map_eq_some_iff.mp hbound
      obtain ⟨less, rfl, hless⟩ := hroom whole rfl
      exact ⟨less - 1, rfl, Nat.sub_le_sub_right hless 1⟩

/-- Nothing is lost by asking a repetition to get on: a round that takes nothing up may as
well be left out. -/
theorem Spans.idle {subject : Subject} {manner : Manner} {body : Regex} {most : Option Nat}
    {start stop : Nat}
    (again : Spans subject (manner.loop body 0 (most.map (· - 1))) start stop) :
    Spans subject (manner.loop body 0 most) start stop :=
  again.roomier fun bound hbound => ⟨bound - 1, by rw [hbound]; rfl, Nat.sub_le bound 1⟩

/-- All goals are met from one place to another. -/
inductive Met (subject : Subject) : List Goal → Nat → Nat → Prop
  | done {start : Nat} : Met subject [] start start
  | meet {regex : Regex} {rest : List Goal} {start middle stop : Nat}
      (spans : Spans subject regex start middle) (others : Met subject rest middle stop) :
      Met subject (.meet regex :: rest) start stop
  | close {number opened start stop : Nat} {rest : List Goal}
      (others : Met subject rest start stop) :
      Met subject (.close number opened :: rest) start stop
  | beyond {index start stop : Nat} {rest : List Goal} (progress : index < start)
      (others : Met subject rest start stop) :
      Met subject (.beyond index :: rest) start stop

/-- A goal asks for something regular. -/
inductive Goal.IsRegular : Goal → Prop
  | meet {regex : Regex} (regular : regex.IsRegular) : Goal.IsRegular (.meet regex)
  | close {number opened : Nat} (own : number ≠ 0) : Goal.IsRegular (.close number opened)
  | beyond {index : Nat} : Goal.IsRegular (.beyond index)

/-- The one of two ways that the search takes. -/
def better (thorough : Bool) (first second : Option (Nat × Groups)) : Option (Nat × Groups) :=
  if thorough then longer first second
  else
    match first with
    | some found => some found
    | none => second

/-- The one of going on with a repetition and stopping that the search takes. -/
def Manner.better (thorough : Bool) (again enough : Option (Nat × Groups)) :
    Manner → Option (Nat × Groups)
  | .greedy => Regex.better thorough again enough
  | .lazy => Regex.better thorough enough again

section Steps

variable (subject : Subject) (thorough : Bool) (fuel : Nat) (rest : List Goal) (index : Nat)
  (groups : Groups)

theorem reach_mark {regex : Regex} (h : regex.isMark = true) :
    reach subject thorough (fuel + 1) (.meet regex :: rest) index groups =
      if subject.marks index regex then reach subject thorough fuel rest index groups
      else none := by
  cases regex with
  | empty | lineStart | lineEnd | wordEdge | notEdge | apart => rfl
  | _ => contradiction

theorem reach_letter {regex : Regex} (h : regex.isLetter = true) :
    reach subject thorough (fuel + 1) (.meet regex :: rest) index groups =
      match subject.chars[index]? with
      | some char =>
          if subject.takes char regex then reach subject thorough fuel rest (index + 1) groups
          else none
      | none => none := by
  cases regex with
  | letter | any | oneOf => rfl
  | _ => contradiction

theorem reach_sequence (first second : Regex) :
    reach subject thorough (fuel + 1) (.meet (.sequence first second) :: rest) index groups =
      reach subject thorough fuel (.meet first :: .meet second :: rest) index groups := rfl

theorem reach_choice (first second : Regex) :
    reach subject thorough (fuel + 1) (.meet (.choice first second) :: rest) index groups =
      better thorough (reach subject thorough fuel (.meet first :: rest) index groups)
        (reach subject thorough fuel (.meet second :: rest) index groups) := rfl

theorem reach_group (number : Nat) (body : Regex) :
    reach subject thorough (fuel + 1) (.meet (.group number body) :: rest) index groups =
      reach subject thorough fuel (.meet body :: .close number index :: rest) index groups := rfl

theorem reach_owed (manner : Manner) (body : Regex) (least : Nat) (most : Option Nat) :
    reach subject thorough (fuel + 1) (.meet (manner.loop body (least + 1) most) :: rest) index
        groups =
      reach subject thorough fuel
        (.meet body :: .meet (manner.loop body least (most.map (· - 1))) :: rest) index
        groups := by
  cases manner <;> rfl

theorem reach_full (manner : Manner) (body : Regex) :
    reach subject thorough (fuel + 1) (.meet (manner.loop body 0 (some 0)) :: rest) index groups =
      reach subject thorough fuel rest index groups := by
  cases manner <;> rfl

theorem reach_loop (manner : Manner) (body : Regex) {most : Option Nat} (h : most ≠ some 0) :
    reach subject thorough (fuel + 1) (.meet (manner.loop body 0 most) :: rest) index groups =
      manner.better thorough
        (reach subject thorough fuel
          (.meet body :: .beyond index :: .meet (manner.loop body 0 (most.map (· - 1))) :: rest)
          index groups)
        (reach subject thorough fuel rest index groups) := by
  cases manner with
  | greedy | lazy =>
      simp only [Manner.loop, reach, if_neg h]
      rfl

theorem reach_close (number opened : Nat) :
    reach subject thorough (fuel + 1) (.close number opened :: rest) index groups =
      reach subject thorough fuel rest index
        ((number, opened, index) :: groups.filter fun entry => entry.1 ≠ number) := rfl

theorem reach_beyond (before : Nat) :
    reach subject thorough (fuel + 1) (.beyond before :: rest) index groups =
      if before < index then reach subject thorough fuel rest index groups else none := rfl

end Steps

theorem eq_or_of_better {thorough : Bool} {first second : Option (Nat × Groups)}
    {found : Nat × Groups} (h : better thorough first second = some found) :
    first = some found ∨ second = some found := by
  unfold better longer at h
  split at h
  · split at h
    · exact .inr h
    · exact .inl h
    · split at h
      · exact .inr h
      · exact .inl h
  · split at h
    · exact .inl h
    · exact .inr h

theorem eq_or_of_manner {manner : Manner} {thorough : Bool}
    {again enough : Option (Nat × Groups)} {found : Nat × Groups}
    (h : manner.better thorough again enough = some found) :
    again = some found ∨ enough = some found := by
  cases manner with
  | greedy => exact eq_or_of_better h
  | lazy => exact (eq_or_of_better h).symm

theorem lookup_close {number opened stop : Nat} (groups : Groups) (h : number ≠ 0) :
    List.lookup 0 ((number, opened, stop) :: groups.filter fun entry => entry.1 ≠ number) =
      List.lookup 0 groups := by
  have hzero : (0 == number) = false := beq_eq_false_iff_ne.mpr h.symm
  have hkept : List.lookup 0 (groups.filter fun entry => entry.1 ≠ number) =
      List.lookup 0 groups := by
    induction groups with
    | nil => rfl
    | cons entry rest ih =>
        obtain ⟨other, span⟩ := entry
        by_cases hother : other = number
        · rw [List.filter_cons_of_neg (by simp [hother]), ih, List.lookup_cons, hother, hzero]
        · rw [List.filter_cons_of_pos (by simp [hother]), List.lookup_cons, List.lookup_cons, ih]
  rw [List.lookup_cons, hzero, hkept]

variable {subject : Subject} {thorough : Bool}

theorem Met.of_meet {regex : Regex} {rest : List Goal} {start stop : Nat}
    (h : Met subject (.meet regex :: rest) start stop) :
    ∃ middle, Spans subject regex start middle ∧ Met subject rest middle stop := by
  cases h with
  | meet spans others => exact ⟨_, spans, others⟩

theorem Met.of_close {number opened start stop : Nat} {rest : List Goal}
    (h : Met subject (.close number opened :: rest) start stop) : Met subject rest start stop := by
  cases h with
  | close others => exact others

theorem Met.of_beyond {index start stop : Nat} {rest : List Goal}
    (h : Met subject (.beyond index :: rest) start stop) :
    index < start ∧ Met subject rest start stop := by
  cases h with
  | beyond progress others => exact ⟨progress, others⟩

/-- Some goals in the place of others: what they lead to is led to by those as well. -/
structure Advances (subject : Subject) (goals : List Goal) (start : Nat) (next : List Goal)
    (middle : Nat) : Prop where
  regular : ∀ goal ∈ next, goal.IsRegular
  met : ∀ {stop}, Met subject next middle stop → Met subject goals start stop

theorem exists_advances_of_loop {fuel : Nat} {manner : Manner} {body : Regex} {least : Nat}
    {most : Option Nat} {rest : List Goal} {start : Nat} {groups : Groups} {found : Nat × Groups}
    (inside : body.IsRegular) (hrest : ∀ goal ∈ rest, goal.IsRegular)
    (h : reach subject thorough (fuel + 1) (.meet (manner.loop body least most) :: rest) start
      groups = some found) :
    ∃ next middle, reach subject thorough fuel next middle groups = some found ∧
      Advances subject (.meet (manner.loop body least most) :: rest) start next middle := by
  cases least with
  | succ least =>
      rw [reach_owed] at h
      refine ⟨_, start, h, List.forall_mem_cons.mpr ⟨.meet inside,
        List.forall_mem_cons.mpr ⟨.meet (.loop manner inside), hrest⟩⟩, fun hmet => ?_⟩
      obtain ⟨middle, honce, hmet⟩ := hmet.of_meet
      obtain ⟨last, hagain, hmet⟩ := hmet.of_meet
      exact .meet (.owed honce hagain) hmet
  | zero =>
      by_cases hroom : most = some 0
      · rw [hroom, reach_full] at h
        exact ⟨rest, start, h, hrest, .meet .enough⟩
      · rw [reach_loop _ _ _ _ _ _ _ _ hroom] at h
        rcases eq_or_of_manner h with h | h
        · refine ⟨_, start, h, List.forall_mem_cons.mpr ⟨.meet inside,
            List.forall_mem_cons.mpr ⟨.beyond, List.forall_mem_cons.mpr
              ⟨.meet (.loop manner inside), hrest⟩⟩⟩, fun hmet => ?_⟩
          obtain ⟨middle, honce, hmet⟩ := hmet.of_meet
          obtain ⟨hprogress, hmet⟩ := hmet.of_beyond
          obtain ⟨last, hagain, hmet⟩ := hmet.of_meet
          exact .meet (.more hroom honce hprogress hagain) hmet
        · exact ⟨rest, start, h, hrest, .meet .enough⟩

/-- A search that finds something has gone on from its first expression to other goals. -/
theorem exists_advances_of_reach {fuel : Nat} {regex : Regex} {rest : List Goal} {start : Nat}
    {groups : Groups} {found : Nat × Groups} (hregular : regex.IsRegular)
    (hrest : ∀ goal ∈ rest, goal.IsRegular)
    (h : reach subject thorough (fuel + 1) (.meet regex :: rest) start groups = some found) :
    ∃ next middle, reach subject thorough fuel next middle groups = some found ∧
      Advances subject (.meet regex :: rest) start next middle := by
  cases hregular with
  | mark isMark =>
      rw [reach_mark _ _ _ _ _ _ isMark] at h
      split at h
      · next hholds => exact ⟨rest, start, h, hrest, .meet (.mark isMark hholds)⟩
      · contradiction
  | letter isLetter =>
      rw [reach_letter _ _ _ _ _ _ isLetter] at h
      split at h
      · next char hstands =>
          split at h
          · next htaken => exact ⟨rest, _, h, hrest, .meet (.letter isLetter hstands htaken)⟩
          · contradiction
      · contradiction
  | sequence before after =>
      refine ⟨_, start, h, List.forall_mem_cons.mpr ⟨.meet before,
        List.forall_mem_cons.mpr ⟨.meet after, hrest⟩⟩, fun hmet => ?_⟩
      obtain ⟨middle, hbefore, hmet⟩ := hmet.of_meet
      obtain ⟨last, hafter, hmet⟩ := hmet.of_meet
      exact .meet (.sequence hbefore hafter) hmet
  | choice one other =>
      rw [reach_choice] at h
      rcases eq_or_of_better h with h | h
      · refine ⟨_, start, h, List.forall_mem_cons.mpr ⟨.meet one, hrest⟩, fun hmet => ?_⟩
        obtain ⟨middle, hspans, hmet⟩ := hmet.of_meet
        exact .meet (.first hspans) hmet
      · refine ⟨_, start, h, List.forall_mem_cons.mpr ⟨.meet other, hrest⟩, fun hmet => ?_⟩
        obtain ⟨middle, hspans, hmet⟩ := hmet.of_meet
        exact .meet (.second hspans) hmet
  | group own inside =>
      refine ⟨_, start, h, List.forall_mem_cons.mpr ⟨.meet inside,
        List.forall_mem_cons.mpr ⟨.close own, hrest⟩⟩, fun hmet => ?_⟩
      obtain ⟨middle, hspans, hmet⟩ := hmet.of_meet
      exact .meet (.group hspans) hmet.of_close
  | loop manner inside => exact exists_advances_of_loop inside hrest h

/-- What a search finds meets all its goals, and marks no other start of the match. -/
theorem met_of_reach {fuel : Nat} {goals : List Goal} {start stop : Nat} {groups found : Groups}
    (hregular : ∀ goal ∈ goals, goal.IsRegular)
    (h : reach subject thorough fuel goals start groups = some (stop, found)) :
    Met subject goals start stop ∧ List.lookup 0 found = List.lookup 0 groups := by
  induction fuel generalizing goals start groups with
  | zero => simp [reach] at h
  | succ fuel ih =>
      cases goals with
      | nil =>
          obtain ⟨rfl, rfl⟩ := Prod.mk.inj (Option.some.inj h)
          exact ⟨.done, rfl⟩
      | cons goal rest =>
          obtain ⟨hgoal, hrest⟩ := List.forall_mem_cons.mp hregular
          cases hgoal with
          | close own =>
              obtain ⟨hmet, hlookup⟩ := ih hrest h
              exact ⟨.close hmet, hlookup.trans (lookup_close groups own)⟩
          | beyond =>
              rw [reach_beyond] at h
              split at h
              · next hprogress =>
                  obtain ⟨hmet, hlookup⟩ := ih hrest h
                  exact ⟨.beyond hprogress hmet, hlookup⟩
              · contradiction
          | meet regular =>
              obtain ⟨next, middle, hnext, hadvances⟩ := exists_advances_of_reach regular hrest h
              obtain ⟨hmet, hlookup⟩ := ih hadvances.regular hnext
              exact ⟨hadvances.met hmet, hlookup⟩

/-- With enough supply, a search finds a match, and a thorough one finds a match that goes
as far. -/
def Finds (subject : Subject) (thorough : Bool) (goals : List Goal) (start stop : Nat) : Prop :=
  ∃ supply, ∀ more groups, ∃ found,
    reach subject thorough (supply + more) goals start groups = some found ∧
      (thorough = true → stop ≤ found.1)

theorem exists_better {thorough : Bool} {first second : Option (Nat × Groups)}
    {found : Nat × Groups} (h : first = some found ∨ second = some found) :
    ∃ taken, better thorough first second = some taken ∧
      (thorough = true → found.1 ≤ taken.1) := by
  cases thorough with
  | false =>
      cases first with
      | some one => exact ⟨one, rfl, by simp⟩
      | none => exact ⟨found, by simpa [better] using h, by simp⟩
  | true =>
      cases first with
      | none => exact ⟨found, by simpa [better, longer] using h, fun _ => Nat.le_refl _⟩
      | some one =>
          cases second with
          | none =>
              obtain rfl : one = found := by simpa using h
              exact ⟨one, rfl, fun _ => Nat.le_refl _⟩
          | some other =>
              simp only [Option.some.injEq] at h
              by_cases hless : one.1 < other.1
              · refine ⟨other, by simp [better, longer, hless], fun _ => ?_⟩
                rcases h with rfl | rfl <;> omega
              · refine ⟨one, by simp [better, longer, hless], fun _ => ?_⟩
                rcases h with rfl | rfl <;> omega

theorem exists_manner {manner : Manner} {thorough : Bool} {again enough : Option (Nat × Groups)}
    {found : Nat × Groups} (h : again = some found ∨ enough = some found) :
    ∃ taken, manner.better thorough again enough = some taken ∧
      (thorough = true → found.1 ≤ taken.1) := by
  cases manner with
  | greedy => exact exists_better h
  | lazy => exact exists_better h.symm

/-- Goals that are one step away from others are met if those are, if need be by a better
way. -/
theorem Finds.of_step {goals next : List Goal} {start middle stop : Nat}
    (h : Finds subject thorough next middle stop)
    (hstep : ∀ fuel groups, ∃ after, ∀ found,
      reach subject thorough fuel next middle after = some found →
        ∃ taken, reach subject thorough (fuel + 1) goals start groups = some taken ∧
          (thorough = true → found.1 ≤ taken.1)) :
    Finds subject thorough goals start stop := by
  obtain ⟨supply, hfinds⟩ := h
  refine ⟨supply + 1, fun more groups => ?_⟩
  obtain ⟨after, hafter⟩ := hstep (supply + more) groups
  obtain ⟨found, hfound, hstop⟩ := hfinds more after
  obtain ⟨taken, htaken, hbetter⟩ := hafter found hfound
  rw [Nat.add_right_comm]
  exact ⟨taken, htaken, fun hthorough => Nat.le_trans (hstop hthorough) (hbetter hthorough)⟩

theorem Finds.of_eq {goals next : List Goal} {start middle stop : Nat}
    (h : Finds subject thorough next middle stop)
    (hstep : ∀ fuel groups, ∃ after,
      reach subject thorough (fuel + 1) goals start groups =
        reach subject thorough fuel next middle after) :
    Finds subject thorough goals start stop := by
  refine h.of_step fun fuel groups => ?_
  obtain ⟨after, hafter⟩ := hstep fuel groups
  exact ⟨after, fun found hfound => ⟨found, hafter.trans hfound, fun _ => Nat.le_refl _⟩⟩

/-- Whatever an expression spans, the search goes on from its end to what is still to be
met. -/
theorem Spans.finds {regex : Regex} {start middle : Nat} (h : Spans subject regex start middle)
    {rest : List Goal} {stop : Nat} (hrest : Finds subject thorough rest middle stop) :
    Finds subject thorough (.meet regex :: rest) start stop := by
  induction h generalizing rest with
  | mark isMark holds =>
      refine hrest.of_eq fun fuel groups => ⟨groups, ?_⟩
      rw [reach_mark _ _ _ _ _ _ isMark, if_pos holds]
  | letter isLetter stands taken =>
      refine hrest.of_eq fun fuel groups => ⟨groups, ?_⟩
      rw [reach_letter _ _ _ _ _ _ isLetter, stands]
      exact if_pos taken
  | sequence before after ihBefore ihAfter =>
      exact (ihBefore (ihAfter hrest)).of_eq fun fuel groups => ⟨groups, rfl⟩
  | first chosen ih =>
      refine (ih hrest).of_step fun fuel groups => ⟨groups, fun found hfound => ?_⟩
      rw [reach_choice]
      exact exists_better (.inl hfound)
  | second chosen ih =>
      refine (ih hrest).of_step fun fuel groups => ⟨groups, fun found hfound => ?_⟩
      rw [reach_choice]
      exact exists_better (.inr hfound)
  | @group number body start middle inside ih =>
      have hclose : Finds subject thorough (.close number start :: rest) middle stop :=
        hrest.of_eq fun fuel groups => ⟨_, rfl⟩
      exact (ih hclose).of_eq fun fuel groups => ⟨groups, rfl⟩
  | owed once again ihOnce ihAgain =>
      exact (ihOnce (ihAgain hrest)).of_eq fun fuel groups =>
        ⟨groups, reach_owed _ _ _ _ _ _ _ _ _ _⟩
  | @enough manner body most start =>
      by_cases hroom : most = some 0
      · exact hrest.of_eq fun fuel groups => ⟨groups, hroom ▸ reach_full _ _ _ _ _ _ _ _⟩
      · refine hrest.of_step fun fuel groups => ⟨groups, fun found hfound => ?_⟩
        rw [reach_loop _ _ _ _ _ _ _ _ hroom]
        exact exists_manner (.inr hfound)
  | @more manner body most start middle last room once progress again ihOnce ihAgain =>
      have hbeyond : Finds subject thorough
          (.beyond start :: .meet (manner.loop body 0 (most.map (· - 1))) :: rest) middle stop :=
        (ihAgain hrest).of_eq fun fuel groups => ⟨groups, if_pos progress⟩
      refine (ihOnce hbeyond).of_step fun fuel groups => ⟨groups, fun found hfound => ?_⟩
      rw [reach_loop _ _ _ _ _ _ _ _ room]
      exact exists_manner (.inl hfound)

/-- A match that is found spans a part of the text from the place that was asked for. -/
theorem spans_of_matchAt? {regex : Regex} {index : Nat} {found : Match}
    (hregular : regex.IsRegular) (h : regex.matchAt? subject index = some found) :
    found.start = index ∧ Spans subject regex index found.stop := by
  obtain ⟨⟨stop, groups⟩, hreach, rfl⟩ := Option.map_eq_some_iff.mp h
  obtain ⟨hmet, hlookup⟩ := met_of_reach (by simpa using .meet hregular) hreach
  obtain ⟨middle, hspans, hmet⟩ := hmet.of_meet
  cases hmet
  refine ⟨?_, hspans⟩
  dsimp only
  rw [hlookup]
  rfl

/-- With enough supply, a match is found wherever the expression spans something, and the
thorough search finds the longest. -/
theorem exists_reach_of_spans {regex : Regex} {start stop : Nat}
    (h : Spans subject regex start stop) (thorough : Bool) :
    ∃ supply, ∀ more, ∃ last groups,
      reach subject thorough (supply + more) [.meet regex] start [] = some (last, groups) ∧
        (thorough = true → stop ≤ last) := by
  have hnone : Finds subject thorough [] stop stop :=
    ⟨1, fun more groups => ⟨(stop, groups), by rw [Nat.add_comm]; rfl, fun _ => Nat.le_refl _⟩⟩
  obtain ⟨supply, hfinds⟩ := h.finds hnone
  refine ⟨supply, fun more => ?_⟩
  obtain ⟨⟨last, groups⟩, hreach, hstop⟩ := hfinds more []
  exact ⟨last, groups, hreach, hstop⟩

example : (Regex.choice (.letter 'a') (.sequence (.letter 'a') (.letter 'b'))).matchAt?
    { chars := "abc".toList.toArray } 0 = some ⟨0, 2, []⟩ := by
  decide

theorem exists_of_searchFrom {regex : Regex} {count index : Nat} {found : Match}
    (h : searchFrom regex subject count index = some found) :
    ∃ start, index ≤ start ∧ regex.matchAt? subject start = some found ∧
      ∀ earlier, index ≤ earlier → earlier < start → regex.matchAt? subject earlier = none := by
  induction count generalizing index with
  | zero => contradiction
  | succ count ih =>
      rw [searchFrom] at h
      cases hhere : regex.matchAt? subject index with
      | some here =>
          rw [hhere] at h
          exact ⟨index, Nat.le_refl index, hhere.trans h, fun earlier hfrom hto => by omega⟩
      | none =>
          rw [hhere] at h
          obtain ⟨start, hfrom, hfound, hearlier⟩ := ih h
          refine ⟨start, by omega, hfound, fun earlier hindex hstart => ?_⟩
          rcases Nat.eq_or_lt_of_le hindex with rfl | hlater
          · exact hhere
          · exact hearlier earlier hlater hstart

/-- A search finds a match at the first place that has one, and it spans what it says. -/
theorem search?_finds_first {regex : Regex} {index : Nat} {found : Match}
    (hregular : regex.IsRegular) (h : regex.search? subject index = some found) :
    index ≤ found.start ∧ Spans subject regex found.start found.stop ∧
      ∀ earlier, index ≤ earlier → earlier < found.start →
        regex.matchAt? subject earlier = none := by
  unfold search? at h
  split at h
  · contradiction
  · obtain ⟨start, hfrom, hfound, hearlier⟩ := exists_of_searchFrom h
    obtain ⟨rfl, hspans⟩ := spans_of_matchAt? hregular hfound
    exact ⟨hfrom, hspans, hearlier⟩

end Regex

end FolderScript.Shell
