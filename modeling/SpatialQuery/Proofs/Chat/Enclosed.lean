import Mathlib.Data.List.Infix
import SpatialQuery.Chat.ObjectText

/-!
# The first braces that are closed

How deep a text is in braces is counted outside of strings.  From an opening brace on the depth is above
zero, until for the first time it is zero again: there the brace is closed.  The object of a reply is what
the leftmost brace encloses that is closed at all.  A brace that stays open is passed over, whatever quotes
and strings were read behind it, and the next one is read as if nothing had been.
-/

set_option autoImplicit false

namespace SpatialQuery.Chat

abbrev openingBrace : Mark := .char '\x7b'

abbrev closingBrace : Mark := .char '\x7d'

namespace Position

def next : Position → Mark → Position
  | .outside, m => if m = .char '"' then .inString else .outside
  | .inString, m =>
    if m = .char '\\' then .afterBackslash else if m = .char '"' then .outside else .inString
  | .afterBackslash, _ => .inString

/-- How much deeper it is behind the mark than before it. -/
def weight : Position → Mark → Int
  | .outside, m => if m = openingBrace then 1 else if m = closingBrace then -1 else 0
  | .inString, _ | .afterBackslash, _ => 0

theorem neg_one_le_weight (p : Position) (m : Mark) : -1 ≤ p.weight m := by
  unfold weight
  repeat' split
  all_goals decide

end Position

def depthFrom : Position → List Mark → Int
  | _, [] => 0
  | p, m :: rest => p.weight m + depthFrom (p.next m) rest

/-- The depth behind marks, before which it is zero and outside of strings. -/
def depth (marks : List Mark) : Int := depthFrom .outside marks

/-- From an opening brace on, which these marks follow, the depth returns to zero. -/
def IsClosedBy (rest : List Mark) : Prop :=
  ∃ part, part <+: openingBrace :: rest ∧ part ≠ [] ∧ depth part = 0

/-- An opening brace and what follows it up to the first place where the depth is zero. -/
structure IsEnclosed (marks : List Mark) : Prop where
  opening : marks.head? = some openingBrace
  closed : depth marks = 0
  inside : ∀ part, part <+: marks → part ≠ [] → part ≠ marks → 0 < depth part

/-- No opening brace among the marks is closed, neither among them nor by what follows them. -/
def NoneIsClosed (marks after : List Mark) : Prop :=
  ∀ earlier later, marks = earlier ++ openingBrace :: later → ¬ IsClosedBy (later ++ after)

/-! ## From one brace on -/

/-- The depth, which is `level` before the marks, is above zero wherever they are broken off. -/
def StaysOpen (level : Int) (p : Position) (marks : List Mark) : Prop :=
  ∀ part, part <+: marks → 0 < level + depthFrom p part

/-- The depth, which is `level` before the marks, is zero behind them for the first time. -/
def EndsOpen (level : Int) (p : Position) (marks : List Mark) : Prop :=
  level + depthFrom p marks = 0 ∧
    ∀ part, part <+: marks → part ≠ marks → 0 < level + depthFrom p part

section Steps

variable {level : Int} {p : Position} {m : Mark} {rest : List Mark}

theorem depth_behind (level : Int) (p : Position) (m : Mark) (part : List Mark) :
    level + depthFrom p (m :: part) = level + p.weight m + depthFrom (p.next m) part :=
  (Int.add_assoc ..).symm

theorem staysOpen_cons : StaysOpen level p (m :: rest) ↔
    0 < level ∧ StaysOpen (level + p.weight m) (p.next m) rest := by
  simp only [StaysOpen, List.prefix_cons_iff]
  constructor
  · intro stays
    refine ⟨by simpa [depthFrom] using stays [] (.inl rfl), fun part within => ?_⟩
    rw [← depth_behind]
    exact stays (m :: part) (.inr ⟨part, rfl, within⟩)
  · rintro ⟨inside, stays⟩ _ (rfl | ⟨part, rfl, within⟩)
    · simpa [depthFrom] using inside
    · rw [depth_behind]
      exact stays part within

theorem endsOpen_nil : EndsOpen level p [] ↔ level = 0 := by
  simp [EndsOpen, depthFrom]

theorem endsOpen_cons : EndsOpen level p (m :: rest) ↔
    0 < level ∧ EndsOpen (level + p.weight m) (p.next m) rest := by
  simp only [EndsOpen, depth_behind, List.prefix_cons_iff]
  constructor
  · rintro ⟨closed, before⟩
    refine ⟨by simpa [depthFrom] using before [] (.inl rfl) (List.cons_ne_nil _ _).symm, closed,
      fun part within proper => ?_⟩
    rw [← depth_behind]
    exact before (m :: part) (.inr ⟨part, rfl, within⟩) fun same => proper (List.cons.inj same).2
  · rintro ⟨inside, closed, before⟩
    refine ⟨closed, ?_⟩
    rintro _ (rfl | ⟨part, rfl, within⟩) proper
    · simpa [depthFrom] using inside
    · rw [depth_behind]
      exact before part within fun same => proper (congrArg (m :: ·) same)

theorem eq_nil_of_endsOpen_zero {marks : List Mark} (ends : EndsOpen 0 p marks) : marks = [] := by
  cases marks with
  | nil => rfl
  | cons m rest => exact absurd (endsOpen_cons.mp ends).1 (Int.lt_irrefl 0)

end Steps

section Scan

variable {level : Nat}

theorem upToClosing_cons (inside : 0 < level) (p : Position) (m : Mark) (rest : List Mark) :
    upToClosing level p (m :: rest) =
      if (level : Int) + p.weight m = 0 then some [m]
      else (upToClosing (level + p.weight m).toNat (p.next m) rest).map (m :: ·) := by
  have unclosed : ¬ (level : Int) = 0 := by omega
  cases p with
  | outside =>
    rw [upToClosing, Position.weight, Position.next]
    by_cases quote : m = .char '"'
    · subst quote
      simp [inside.ne']
    · by_cases opening : m = openingBrace
      · subst opening
        have deeper : ¬ (level : Int) + 1 = 0 := by omega
        have counted : ((level : Int) + 1).toNat = level + 1 := by omega
        simp [deeper, counted]
      · by_cases closing : m = closingBrace
        · subst closing
          have counted : ((level : Int) + -1).toNat = level - 1 := by omega
          have last : level ≤ 1 ↔ (level : Int) + -1 = 0 := by omega
          simp [last, counted]
        · simp [quote, opening, closing, inside.ne']
  | inString | afterBackslash =>
    simp only [upToClosing, Position.weight, Position.next, Int.add_zero, if_neg unclosed,
      Int.toNat_natCast]

theorem upToClosing_nil (p : Position) : upToClosing level p [] = none := by
  cases p <;> rfl

theorem level_behind (inside : 0 < level) {p : Position} {m : Mark}
    (notLast : ¬ (level : Int) + p.weight m = 0) :
    0 < ((level : Int) + p.weight m).toNat ∧
      (((level : Int) + p.weight m).toNat : Int) = level + p.weight m := by
  have least := p.neg_one_le_weight m
  omega

theorem upToClosing_eq_none_iff {marks : List Mark} {p : Position} (inside : 0 < level) :
    upToClosing level p marks = none ↔ StaysOpen level p marks := by
  induction marks generalizing level p with
  | nil => simpa [upToClosing_nil, StaysOpen, depthFrom] using inside
  | cons m rest ih =>
    have positive : 0 < (level : Int) := by omega
    rw [upToClosing_cons inside, staysOpen_cons]
    split
    · rename_i last
      rw [last]
      refine iff_of_false nofun ?_
      rintro ⟨_, stays⟩
      simpa [depthFrom] using stays [] List.nil_prefix
    · rename_i notLast
      obtain ⟨insideRest, counted⟩ := level_behind inside notLast
      rw [Option.map_eq_none_iff, ih insideRest, counted]
      exact (and_iff_right positive).symm

theorem upToClosing_eq_some_iff {marks found : List Mark} {p : Position} (inside : 0 < level) :
    upToClosing level p marks = some found ↔ found <+: marks ∧ EndsOpen level p found := by
  induction marks generalizing level p found with
  | nil =>
    rw [upToClosing_nil, List.prefix_nil]
    refine iff_of_false nofun ?_
    rintro ⟨rfl, ends⟩
    have none := endsOpen_nil.mp ends
    omega
  | cons m rest ih =>
    have positive : 0 < (level : Int) := by omega
    have nonempty : ¬ EndsOpen level p [] := by
      rw [endsOpen_nil]
      omega
    rw [upToClosing_cons inside, List.prefix_cons_iff]
    split
    · rename_i last
      constructor
      · rintro ⟨⟩
        exact ⟨.inr ⟨[], rfl, List.nil_prefix⟩,
          endsOpen_cons.mpr ⟨positive, endsOpen_nil.mpr last⟩⟩
      · rintro ⟨rfl | ⟨part, rfl, _⟩, ends⟩
        · exact absurd ends nonempty
        · obtain ⟨_, ends⟩ := endsOpen_cons.mp ends
          rw [last] at ends
          rw [eq_nil_of_endsOpen_zero ends]
    · rename_i notLast
      obtain ⟨insideRest, counted⟩ := level_behind inside notLast
      simp only [Option.map_eq_some_iff, ih insideRest, counted]
      constructor
      · rintro ⟨part, ⟨within, ends⟩, rfl⟩
        exact ⟨.inr ⟨part, rfl, within⟩, endsOpen_cons.mpr ⟨positive, ends⟩⟩
      · rintro ⟨rfl | ⟨part, rfl, within⟩, ends⟩
        · exact absurd ends nonempty
        · exact ⟨part, ⟨within, (endsOpen_cons.mp ends).2⟩, rfl⟩

end Scan

theorem upToClosing_brace (rest : List Mark) :
    upToClosing 0 .outside (openingBrace :: rest) =
      (upToClosing 1 .outside rest).map (openingBrace :: ·) := rfl

theorem isClosedBy_iff {rest : List Mark} :
    IsClosedBy rest ↔ ∃ part, part <+: rest ∧ 1 + depthFrom .outside part = 0 := by
  unfold IsClosedBy
  constructor
  · rintro ⟨part, within, nonempty, closed⟩
    rcases List.prefix_cons_iff.mp within with rfl | ⟨inner, rfl, withinRest⟩
    · exact absurd rfl nonempty
    · exact ⟨inner, withinRest, closed⟩
  · rintro ⟨part, within, closed⟩
    exact ⟨openingBrace :: part, (List.prefix_cons_inj _).mpr within, List.cons_ne_nil _ _, closed⟩

theorem isEnclosed_iff {marks : List Mark} :
    IsEnclosed marks ↔ ∃ part, marks = openingBrace :: part ∧ EndsOpen 1 .outside part := by
  constructor
  · rintro ⟨opening, closed, inside⟩
    obtain ⟨part, rfl⟩ := List.head?_eq_some_iff.mp opening
    refine ⟨part, rfl, closed, fun before within proper => ?_⟩
    exact inside (openingBrace :: before) ((List.prefix_cons_inj _).mpr within)
      (List.cons_ne_nil _ _) fun same => proper (List.cons.inj same).2
  · rintro ⟨part, rfl, closed, inside⟩
    refine ⟨rfl, closed, fun before within nonempty proper => ?_⟩
    rcases List.prefix_cons_iff.mp within with rfl | ⟨inner, rfl, withinPart⟩
    · exact absurd rfl nonempty
    · exact inside inner withinPart fun same => proper (congrArg (openingBrace :: ·) same)

theorem upToClosing_eq_none_iff_open {rest : List Mark} :
    upToClosing 0 .outside (openingBrace :: rest) = none ↔ ¬ IsClosedBy rest := by
  rw [upToClosing_brace, Option.map_eq_none_iff, isClosedBy_iff]
  constructor
  · rintro none ⟨part, within, closed⟩
    have above := (upToClosing_eq_none_iff Nat.one_pos).mp none part within
    omega
  · intro unclosed
    cases scanned : upToClosing 1 .outside rest with
    | none => rfl
    | some part =>
      obtain ⟨within, closed, _⟩ := (upToClosing_eq_some_iff Nat.one_pos).mp scanned
      exact absurd ⟨part, within, closed⟩ unclosed

theorem upToClosing_eq_some_iff_enclosed {rest object : List Mark} :
    upToClosing 0 .outside (openingBrace :: rest) = some object ↔
      object <+: openingBrace :: rest ∧ IsEnclosed object := by
  rw [upToClosing_brace, Option.map_eq_some_iff, isEnclosed_iff]
  simp only [upToClosing_eq_some_iff Nat.one_pos]
  constructor
  · rintro ⟨part, ⟨within, ends⟩, rfl⟩
    exact ⟨(List.prefix_cons_inj _).mpr within, part, rfl, ends⟩
  · rintro ⟨within, part, rfl, ends⟩
    exact ⟨part, ⟨(List.prefix_cons_inj _).mp within, ends⟩, rfl⟩

theorem depthFrom_append (p : Position) (before after : List Mark) :
    ∃ q, depthFrom p (before ++ after) = depthFrom p before + depthFrom q after := by
  induction before generalizing p with
  | nil => exact ⟨p, (Int.zero_add _).symm⟩
  | cons m rest ih =>
    obtain ⟨q, sum⟩ := ih (p.next m)
    refine ⟨q, ?_⟩
    rw [List.cons_append, depthFrom, sum, depthFrom, Int.add_assoc]

theorem eq_closingBrace_of_weight_neg {p : Position} {m : Mark} (shallower : p.weight m < 0) :
    m = closingBrace := by
  cases p with
  | outside =>
    rw [Position.weight] at shallower
    split at shallower
    · omega
    · split at shallower
      · assumption
      · omega
  | inString | afterBackslash => exact absurd shallower (Int.lt_irrefl 0)

/-- Nothing but a closing brace takes the depth back to zero. -/
theorem IsEnclosed.closing {marks : List Mark} (enclosed : IsEnclosed marks) :
    marks.getLast? = some closingBrace := by
  obtain ⟨part, rfl, closed, inside⟩ := isEnclosed_iff.mp enclosed
  rcases part.eq_nil_or_concat' with rfl | ⟨before, last, rfl⟩
  · cases closed
  · obtain ⟨p, sum⟩ := depthFrom_append .outside before [last]
    have above := inside before (List.prefix_append before [last]) (by simp)
    have single : depthFrom p [last] = p.weight last := Int.add_zero _
    have brace : last = closingBrace := eq_closingBrace_of_weight_neg (p := p) (by omega)
    rw [brace, ← List.cons_append, List.getLast?_concat]

/-! ## From one brace to the next -/

theorem noneIsClosed_nil (after : List Mark) : NoneIsClosed [] after := by
  intro earlier later split
  simp at split

theorem noneIsClosed_cons {m : Mark} {marks after : List Mark} :
    NoneIsClosed (m :: marks) after ↔
      (m = openingBrace → ¬ IsClosedBy (marks ++ after)) ∧ NoneIsClosed marks after := by
  unfold NoneIsClosed
  constructor
  · intro none
    refine ⟨fun opening => none [] marks (by rw [opening]; rfl), fun earlier later split => ?_⟩
    exact none (m :: earlier) later (by rw [split]; rfl)
  · rintro ⟨here, others⟩ (_ | ⟨first, earlier⟩) later split
    · obtain ⟨opening, rfl⟩ := List.cons.inj split
      exact here opening
    · exact others earlier later (List.cons.inj split).2

section First

variable {m : Mark} {marks rest object : List Mark}

theorem firstObject?_cons_eq_none_iff : firstObject? (m :: rest) = none ↔
    (m = openingBrace → ¬ IsClosedBy rest) ∧ firstObject? rest = none := by
  by_cases opening : m = openingBrace
  · subst opening
    rw [firstObject?, if_pos rfl, imp_iff_right rfl, ← upToClosing_eq_none_iff_open]
    cases upToClosing 0 .outside (openingBrace :: rest) <;> simp
  · rw [firstObject?, if_neg opening]
    exact (and_iff_right fun contrary => absurd contrary opening).symm

/-- An opening brace either encloses the object, or it stays open and is passed over as any other mark
is. -/
theorem firstObject?_cons_eq_some_iff : firstObject? (m :: rest) = some object ↔
    (m = openingBrace ∧ object <+: openingBrace :: rest ∧ IsEnclosed object) ∨
      (m = openingBrace → ¬ IsClosedBy rest) ∧ firstObject? rest = some object := by
  by_cases opening : m = openingBrace
  · subst opening
    rw [firstObject?, if_pos rfl, imp_iff_right rfl, ← upToClosing_eq_none_iff_open, and_iff_right rfl,
      ← upToClosing_eq_some_iff_enclosed]
    cases upToClosing 0 .outside (openingBrace :: rest) <;> simp
  · rw [firstObject?, if_neg opening]
    simp [opening]

theorem firstObject?_eq_none_iff : firstObject? marks = none ↔ NoneIsClosed marks [] := by
  induction marks with
  | nil => exact iff_of_true rfl (noneIsClosed_nil [])
  | cons m rest ih => rw [firstObject?_cons_eq_none_iff, noneIsClosed_cons, List.append_nil, ih]

theorem firstObject?_eq_some_iff : firstObject? marks = some object ↔
    ∃ before after, marks = before ++ (object ++ after) ∧ IsEnclosed object ∧
      NoneIsClosed before (object ++ after) := by
  induction marks with
  | nil =>
    refine iff_of_false nofun ?_
    rintro ⟨before, after, split, enclosed, _⟩
    obtain ⟨part, rfl, _⟩ := isEnclosed_iff.mp enclosed
    simp at split
  | cons m rest ih =>
    rw [firstObject?_cons_eq_some_iff, ih]
    constructor
    · rintro (⟨rfl, ⟨after, split⟩, enclosed⟩ | ⟨stays, before, after, rfl, enclosed, none⟩)
      · exact ⟨[], after, split.symm, enclosed, noneIsClosed_nil _⟩
      · exact ⟨m :: before, after, rfl, enclosed, noneIsClosed_cons.mpr ⟨stays, none⟩⟩
    · rintro ⟨_ | ⟨first, before⟩, after, split, enclosed, none⟩
      · obtain ⟨part, rfl, _⟩ := isEnclosed_iff.mp enclosed
        obtain ⟨rfl, splitRest⟩ := List.cons.inj split
        exact .inl ⟨rfl, ⟨after, split.symm⟩, enclosed⟩
      · obtain ⟨rfl, splitRest⟩ := List.cons.inj split
        obtain ⟨stays, others⟩ := noneIsClosed_cons.mp none
        exact .inr ⟨splitRest ▸ stays, before, after, splitRest, enclosed, others⟩

end First

/-- A reply has no object if and only if none of its opening braces is closed.  Otherwise the object is
what the leftmost one encloses that is closed. -/
theorem object_is_first_enclosed (reply : Text) :
    (objectText? reply = none ↔ NoneIsClosed reply.marks []) ∧
      ∀ object : Text,
        (objectText? reply = some object ↔
          ∃ before after : List Mark, reply.marks = before ++ (object.marks ++ after) ∧
            IsEnclosed object.marks ∧ NoneIsClosed before (object.marks ++ after)) ∧
        (objectText? reply = some object →
          object.marks.head? = some openingBrace ∧
            object.marks.getLast? = some closingBrace) := by
  have found (object : Text) : objectText? reply = some object ↔
      firstObject? reply.marks = some object.marks := by
    rw [objectText?, Option.map_eq_some_iff]
    constructor
    · rintro ⟨marks, scanned, rfl⟩
      exact scanned
    · intro scanned
      exact ⟨object.marks, scanned, rfl⟩
  refine ⟨?_, fun object => ⟨?_, fun isFound => ?_⟩⟩
  · rw [objectText?, Option.map_eq_none_iff, firstObject?_eq_none_iff]
  · rw [found, firstObject?_eq_some_iff]
  · obtain ⟨_, _, _, enclosed, _⟩ := firstObject?_eq_some_iff.mp ((found object).mp isFound)
    exact ⟨enclosed.opening, enclosed.closing⟩

/-- The first brace stays open; behind it the scan starts anew, where a brace in a string is no brace. -/
example : objectText? "see \"\x7b \x7b\"a\": \"\x7d\"\x7d done" =
    some "\x7b\"a\": \"\x7d\"\x7d" := by
  decide

end SpatialQuery.Chat
