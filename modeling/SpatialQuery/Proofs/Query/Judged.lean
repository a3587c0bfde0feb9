import SpatialQuery.Proofs.Query.Order
import SpatialQuery.Proofs.Query.Verdict
import SpatialQuery.Proofs.Query.WellFormed

/-!
# The check of queries

Each rule judges the form it is meant for, from single values up to whole queries.  So the check passes the
language of queries, and of anything else it tells each fault once, in the order of the form.
-/

set_option autoImplicit false

namespace SpatialQuery

namespace Form

open Checked (refuse)

/-! ## Strings and numbers -/

section Flat

variable {α : Type} {holds : Json → Prop} {message : Json → Text → Prop} {j : Json}

theorem flat_passed (good : holds j) (silent : ∀ m, ¬ message j m) (a : α) :
    Verdict (.ok a : Checked α) ((flat holds message).holds j) ((flat holds message).faults j)
      (flat holds message).before :=
  .pass good fun v fault => silent v.message fault.2

theorem flat_refused {m : Text} (bad : ¬ holds j) (only : ∀ n, message j n ↔ n = m) :
    Verdict (refuse m : Checked α) ((flat holds message).holds j) ((flat holds message).faults j)
      (flat holds message).before := by
  refine .refuse bad fun v => ?_
  obtain ⟨path, n⟩ := v
  simp only [flat, only, Violation.mk.injEq]

theorem plain_refused {m : Text} (bad : ¬ holds j) :
    Verdict (refuse m : Checked α) ((plain holds m).holds j) ((plain holds m).faults j)
      (plain holds m).before :=
  flat_refused bad fun _ => and_iff_right bad

theorem flat_ensured {a : α} {fault? : α → Option Text} (sound : holds j ↔ fault? a = none)
    (tells : ∀ m, message j m ↔ fault? a = some m) :
    Verdict (Checked.ensure (.ok a) fault?) ((flat holds message).holds j)
      ((flat holds message).faults j) (flat holds message).before := by
  have read : Verdict (.ok a : Checked α) True (fun _ => False) (flat holds message).before :=
    .pass trivial fun _ => id
  have tied : ∀ b, (.ok a : Checked α) = .ok b → ∀ m, fault? b = some m ↔ message j m := by
    intro b same m
    cases same
    rw [tells]
  refine (read.ensure tied).congr ?_ (fun v => ?_) fun _ _ => id
  · simp only [flat, sound, tells, true_and, Option.eq_none_iff_forall_ne_some, ne_eq]
  · simp only [flat, false_or, true_and]

end Flat

@[simp] theorem string_holds (j : Json) : string.holds j ↔ ∃ t, j = .str t := Iff.rfl

@[simp] theorem integer_holds (j : Json) : integer.holds j ↔ ∃ n, j = .int n := Iff.rfl

@[simp] theorem int_inj {m n : Int} : Json.int m = Json.int n ↔ m = n := by
  simp [Json.int]

theorem string_cases (j : Json) : (∃ t, j = .str t) ∨
    (∀ t, j ≠ .str t) ∧ Shape.string j = refuse "Input should be a valid string" := by
  cases j with
  | str t => exact .inl ⟨t, rfl⟩
  | _ => exact .inr ⟨by simp, rfl⟩

theorem integer_cases (j : Json) : (∃ n, j = .int n) ∨
    (∀ n, j ≠ .int n) ∧ Shape.integer j = refuse "Input should be a valid integer" := by
  cases j with
  | num n =>
    cases n with
    | int n => exact .inl ⟨n, rfl⟩
    | real x => exact .inr ⟨by simp [Json.int], rfl⟩
  | _ => exact .inr ⟨by simp [Json.int], rfl⟩

theorem surrogateFault?_eq_some {t m : Text} :
    Shape.surrogateFault? t = some m ↔ t.toString? = none ∧ m = Shape.unencodableMessage := by
  unfold Shape.surrogateFault?
  cases t.toString? with
  | none => simp [eq_comm]
  | some s => simp

theorem surrogateFault?_eq_none {t : Text} :
    Shape.surrogateFault? t = none ↔ t.toString?.isSome = true := by
  unfold Shape.surrogateFault?
  cases t.toString? <;> simp

theorem name_judges : Judges Shape.name name := by
  intro j
  rcases string_cases j with ⟨t, rfl⟩ | ⟨noString, refused⟩
  · refine flat_ensured ?_ fun m => ?_
    · by_cases void : t = ""
      · simp [void]
      · simp [void, surrogateFault?_eq_none]
    · by_cases void : t = ""
      · simp [void, eq_comm]
      · simp [void, surrogateFault?_eq_some]
  · rw [Shape.name, refused]
    exact flat_refused (by simp [noString]) fun n => by simp [noString]

theorem positive_judges : Judges Shape.positive positive := by
  intro j
  rcases integer_cases j with ⟨n, rfl⟩ | ⟨noInteger, refused⟩
  · refine flat_ensured ?_ fun m => ?_
    · simp
    · by_cases above : 0 < n
      · simp [above]
      · simp [above, not_lt.mp above, eq_comm]
  · rw [Shape.positive, refused]
    exact flat_refused (by simp [noInteger]) fun n => by simp [noInteger]

theorem year_judges : Judges Shape.year year := by
  intro j
  rcases integer_cases j with ⟨n, rfl⟩ | ⟨noInteger, refused⟩
  · by_cases early : n < 1900
    · have notLate : ¬ 2100 < n := by omega
      exact flat_ensured (by simp [early]) fun m => by simp [early, notLate, eq_comm]
    · by_cases late : 2100 < n
      · exact flat_ensured (by simp [early, late]) fun m => by simp [early, late, eq_comm]
      · exact flat_ensured (by simp [early, late, not_lt.mp early, not_lt.mp late]) fun m => by
          simp [early, late]
  · rw [Shape.year, refused]
    exact flat_refused (by simp [noInteger]) fun n => by simp [noInteger]

theorem isDateText_iff {t : Text} : Shape.isDateText t = true ↔ IsDate t := by
  unfold Shape.isDateText IsDate
  constructor
  · intro written
    split at written
    · rename_i y y1 y2 y3 m m1 d d1 rest shown
      rw [Bool.and_eq_true, List.all_eq_true, Bool.or_eq_true, beq_iff_eq, beq_iff_eq] at written
      exact ⟨[y, y1, y2, y3], [m, m1], [d, d1], rest, shown, rfl, rfl, rfl, written⟩
    · cases written
  · rintro ⟨year, month, day, ending, shown, four, two, two', digits, ends⟩
    obtain ⟨y, y1, y2, y3, rfl⟩ := List.length_eq_four.mp four
    obtain ⟨m, m1, rfl⟩ := List.length_eq_two.mp two
    obtain ⟨d, d1, rfl⟩ := List.length_eq_two.mp two'
    rw [shown]
    simp only [List.cons_append, List.nil_append]
    rw [Bool.and_eq_true, List.all_eq_true, Bool.or_eq_true, beq_iff_eq, beq_iff_eq]
    exact ⟨digits, ends⟩

theorem dateText_judges : Judges Shape.dateText date := by
  intro j
  rcases string_cases j with ⟨t, rfl⟩ | ⟨noString, refused⟩
  · refine flat_ensured ?_ fun m => ?_
    · simp [isDateText_iff]
    · by_cases isDate : IsDate t
      · simp [isDateText_iff.mpr isDate, isDate]
      · have noDate : Shape.isDateText t = false := by
          rw [← Bool.not_eq_true, isDateText_iff]
          exact isDate
        simp [noDate, isDate, eq_comm]
  · rw [Shape.dateText, refused]
    exact flat_refused (by simp [noString]) fun n => by simp [noString]

theorem choice_judges {α : Type} (all : List α) (nameOf : α → Text) :
    Judges (Shape.choice all nameOf) (choice (all.map nameOf)) := by
  intro j
  unfold Shape.choice
  cases j with
  | str t =>
    dsimp only
    split
    · rename_i a chosen
      have isName : t = nameOf a := by simpa using List.find?_some chosen
      have known : t ∈ all.map nameOf :=
        List.mem_map.mpr ⟨a, List.mem_of_find?_eq_some chosen, isName.symm⟩
      refine flat_passed ⟨t, known, rfl⟩ (fun m told => ?_) a
      exact told.1 t known rfl
    · rename_i unknown
      have other : t ∉ all.map nameOf := by
        rintro known
        obtain ⟨a, member, rfl⟩ := List.mem_map.mp known
        exact List.find?_eq_none.mp unknown a member (beq_self_eq_true _)
      have bad : ∀ u ∈ all.map nameOf, Json.str t ≠ .str u := by
        rintro u known same
        cases same
        exact other known
      refine flat_refused (fun good => ?_) fun m => ?_
      · obtain ⟨u, known, same⟩ := good
        exact bad u known same
      · rw [and_iff_right bad]
        cases fault : Shape.surrogateFault? t with
        | none =>
          have whole := surrogateFault?_eq_none.mp fault
          simp [whole, Option.ne_none_iff_isSome.mpr whole]
        | some n =>
          obtain ⟨lone, rfl⟩ := surrogateFault?_eq_some.mp fault
          simp [lone]
  | _ => exact flat_refused (by simp) fun m => by simp

/-! ## Values of filters -/

theorem tried_plain {holds : Json → Prop} {m : Text} {j : Json} (label : Text) (bad : ¬ holds j) :
    Tried j [(label, plain holds m)] [⟨[label], m⟩] :=
  tried_one label (plain_refused bad : Verdict (refuse m : Checked Empty) _ _ _)

theorem tried_numbers {j : Json} (noNumber : ∀ n, j ≠ .num n) :
    Tried j [("int", integer), ("float", number)] [
      ⟨["int"], "Input should be a valid integer"⟩, ⟨["float"], "Input should be a valid number"⟩] := by
  have noInteger : ¬ ∃ n, j = .int n := fun ⟨n, same⟩ => noNumber (.int n) same
  exact (tried_plain "int" noInteger).next (tried_plain "float" fun ⟨n, same⟩ => noNumber n same)

theorem tried_scalar {j : Json} (noScalar : Shape.scalar? j = none) :
    Tried j scalarKinds Shape.noScalar := by
  have noBool : ¬ ∃ b, j = .bool b := by
    rintro ⟨b, rfl⟩
    cases noScalar
  have noInteger : ¬ ∃ n, j = .int n := by
    rintro ⟨n, rfl⟩
    cases noScalar
  have noNumber : ¬ ∃ n, j = .num n := by
    rintro ⟨n, rfl⟩
    cases noScalar
  have noString : ¬ ∃ t, j = .str t := by
    rintro ⟨t, rfl⟩
    cases noScalar
  exact (((tried_plain "bool" noBool).next (tried_plain "int" noInteger)).next
    (tried_plain "float" noNumber)).next (tried_plain "str" noString)

theorem scalar_kind {j : Json} {s : Scalar} (isScalar : Shape.scalar? j = some s) :
    ∃ kind ∈ scalarKinds, kind.2.holds j := by
  cases j with
  | bool b => exact ⟨("bool", bool), by simp [scalarKinds], b, rfl⟩
  | num n => exact ⟨("float", number), by simp [scalarKinds], n, rfl⟩
  | str t => exact ⟨("str", string), by simp [scalarKinds], t, rfl⟩
  | _ => cases isScalar

theorem scalar_judges : Judges Shape.scalar scalar := by
  intro j
  unfold Shape.scalar
  cases read : Shape.scalar? j with
  | some s =>
    obtain ⟨kind, member, good⟩ := scalar_kind read
    exact union_passed member good s
  | none => exact union_refused (tried_scalar read)

theorem filterValue_judges : Judges Shape.filterValue value := by
  intro j
  unfold Shape.filterValue
  cases read : Shape.scalar? j with
  | some s =>
    obtain ⟨kind, member, good⟩ := scalar_kind read
    exact union_passed (List.mem_append_left _ member) good _
  | none =>
    have listed : Verdict (Shape.scalarList j) _ _ _ := list_judges scalar_judges j
    unfold Shape.scalarList at listed ⊢
    cases items : Shape.list Shape.scalar j with
    | ok values =>
      rw [items] at listed
      refine union_passed (List.mem_append_right _ (List.mem_singleton_self _)) ?_ _
      exact listed.passed.mp ⟨values, rfl⟩
    | error found =>
      rw [items] at listed
      exact union_refused ((tried_scalar read).next (tried_one _ listed))

theorem distance_refused {α : Type} {j : Json} (noNumber : ∀ n, j ≠ .num n) :
    Verdict (.error [⟨["int"], "Input should be a valid integer"⟩,
      ⟨["float"], "Input should be a valid number"⟩] : Checked α)
      (distance.holds j) (distance.faults j) distance.before := by
  refine (union_refused (tried_numbers noNumber)).congr ?_ (fun v => ?_) fun _ _ => id
  · constructor
    · intro good
      exact absurd good (tried_numbers noNumber).bad
    · rintro ⟨n, same, _⟩
      exact absurd same (noNumber n)
  · constructor
    · exact Or.inr
    · rintro (⟨n, same, _⟩ | fault)
      · exact absurd same (noNumber n)
      · exact fault

theorem distance_judges : Judges Shape.distance distance := by
  intro j
  cases j with
  | num n =>
    have noFault (v : Violation) : ¬ (union [("int", integer), ("float", number)]).faults (.num n) v :=
      fun fault => fault.1 ("float", number) (by simp) ⟨n, rfl⟩
    simp only [Shape.distance]
    split
    · rename_i low
      exact .refuse (by simp [distance, low]) fun v => by simp [distance, low, noFault]
    · rename_i above
      exact .pass (by simpa [distance] using above) fun v => by simp [distance, above, noFault]
  | _ => exact distance_refused (by simp)

/-! ## What was read -/

section Read

variable {α : Type} {members : List (Text × Json)} {rule : Shape.Rule α}

theorem required_read {key : Text} {a : α} (read : Shape.required members key key rule = .ok a) :
    ∃ j, Json.member? members key = some j ∧ rule j = .ok a := by
  unfold Shape.required Shape.member? at read
  cases found : Json.member? members key with
  | some j =>
    rw [found] at read
    exact ⟨j, rfl, Checked.under_ok_iff.mp read⟩
  | none =>
    rw [found] at read
    cases read

theorem optional_read {key : Text} {read? : Option α}
    (read : Shape.optional members key key rule = .ok read?) :
    read? = none ↔ ∀ j, Json.member? members key = some j → j = .null := by
  unfold Shape.optional Shape.member? at read
  cases found : Json.member? members key with
  | none =>
    rw [found] at read
    cases read
    simp
  | some j =>
    rw [found] at read
    by_cases void : j = .null
    · subst void
      cases read
      simp
    · have counted : ((rule j).under key).map some = .ok read? := by
        cases j with
        | null => exact absurd rfl void
        | _ => exact read
      obtain ⟨a, _, rfl⟩ := Checked.map_ok_iff.mp counted
      simp [void]

theorem nil_iff_of_list {items : List Json} {values : List α}
    (read : Shape.list rule (.arr items) = .ok values) : values = [] ↔ items = [] := by
  cases items with
  | nil =>
    cases read
    simp
  | cons c rest =>
    obtain ⟨prepend, others, first, _, rfl⟩ := Checked.ap_ok_iff.mp read
    obtain ⟨a, _, rfl⟩ := Checked.map_ok_iff.mp first
    simp

end Read

theorem value_read {j : Json} {v : FilterValue} (read : Shape.filterValue j = .ok v) :
    (∃ s, v = .one s) ∧ (∀ items, j ≠ .arr items) ∨
      ∃ items values, j = .arr items ∧ v = .many values ∧ (values = [] ↔ items = []) := by
  unfold Shape.filterValue at read
  cases scalar : Shape.scalar? j with
  | some s =>
    rw [scalar] at read
    cases read
    refine .inl ⟨⟨s, rfl⟩, ?_⟩
    rintro items rfl
    cases scalar
  | none =>
    rw [scalar] at read
    cases j with
    | arr items =>
      cases listed : Shape.scalarList (.arr items) with
      | ok values =>
        rw [listed] at read
        cases read
        exact .inr ⟨items, values, rfl, rfl, nil_iff_of_list listed⟩
      | error found =>
        rw [listed] at read
        cases read
    | _ => cases read

theorem valueFault?_eq_some {f : AttributeFilter} {m : Text} : Shape.valueFault? f = some m ↔
    (f.op = .oneOf ∧ (∃ s, f.value = .one s) ∧ m = "operator 'in' requires an array value") ∨
    (f.op = .oneOf ∧ f.value = .many [] ∧ m = "operator 'in' requires a non-empty array") ∨
    (f.op ≠ .oneOf ∧ (∃ values, f.value = .many values) ∧
      m = "operator '" ++ f.op.name ++ "' requires a scalar value") := by
  obtain ⟨field, op, value⟩ := f
  unfold Shape.valueFault?
  dsimp only
  split <;> simp_all [eq_comm]

theorem in_iff : ∀ op ∈ AttributeOp.all, op.name = "in" ↔ op = .oneOf := by
  decide

section Values

variable {members : List (Text × Json)} {f : AttributeFilter} {j : Json} {m : Text}

theorem clash_of_valueFault (op : Json.member? members "op" = some (.str f.op.name))
    (known : f.op ∈ AttributeOp.all) (found : Json.member? members "value" = some j)
    (value : Shape.filterValue j = .ok f.value) (fault : Shape.valueFault? f = some m) :
    ValueClash members m := by
  have isIn : f.op.name = "in" ↔ f.op = .oneOf := in_iff f.op known
  rcases valueFault?_eq_some.mp fault with
    ⟨isOneOf, ⟨s, one⟩, rfl⟩ | ⟨isOneOf, many, rfl⟩ | ⟨other, ⟨values, many⟩, rfl⟩
  · rw [isIn.mpr isOneOf] at op
    rcases value_read value with ⟨_, noList⟩ | ⟨items, values, _, many, _⟩
    · exact .single op found noList
    · rw [one] at many
      cases many
  · rw [isIn.mpr isOneOf] at op
    rcases value_read value with ⟨⟨s, one⟩, _⟩ | ⟨items, values, rfl, many', empty⟩
    · rw [many] at one
      cases one
    · rw [many] at many'
      cases many'
      cases empty.mp rfl
      exact .empty op found
  · rcases value_read value with ⟨⟨s, one⟩, _⟩ | ⟨items, values, rfl, _, _⟩
    · rw [many] at one
      cases one
    · exact .several op (isIn.not.mpr other) found

theorem valueFault_of_clash (op : Json.member? members "op" = some (.str f.op.name))
    (known : f.op ∈ AttributeOp.all) (found : Json.member? members "value" = some j)
    (value : Shape.filterValue j = .ok f.value) (clash : ValueClash members m) :
    Shape.valueFault? f = some m := by
  have isIn : f.op.name = "in" ↔ f.op = .oneOf := in_iff f.op known
  have named {t : Text} (op' : Json.member? members "op" = some (.str t)) : f.op.name = t := by
    rw [op] at op'
    cases op'
    rfl
  have isValue {k : Json} (found' : Json.member? members "value" = some k) : j = k := by
    rw [found] at found'
    cases found'
    rfl
  rw [valueFault?_eq_some]
  cases clash with
  | single op' value' noList =>
    cases isValue value'
    rcases value_read value with ⟨one, _⟩ | ⟨items, _, rfl, _⟩
    · exact .inl ⟨isIn.mp (named op'), one, rfl⟩
    · exact absurd rfl (noList items)
  | empty op' value' =>
    cases isValue value'
    rcases value_read value with ⟨_, noList⟩ | ⟨items, values, same, many, empty⟩
    · exact absurd rfl (noList [])
    · cases same
      cases empty.mpr rfl
      exact .inr (.inl ⟨isIn.mp (named op'), many, rfl⟩)
  | several op' other value' =>
    cases isValue value'
    cases named op'
    rcases value_read value with ⟨_, noList⟩ | ⟨items, values, _, many, _⟩
    · exact absurd rfl (noList _)
    · exact .inr (.inr ⟨isIn.not.mp other, ⟨values, many⟩, rfl⟩)

end Values

/-! ## Records -/

theorem attributeFilter_judges : Judges Shape.attributeFilter attributeFilter := by
  apply record_judges
  · intro members
    exact (((required_reads name_judges _ _).map _).ap
      (required_reads (choice_judges _ _) _ _)).ap (required_reads filterValue_judges _ _)
  · intro members f read m
    obtain ⟨_, value, beforeValue, readValue, rfl⟩ := Checked.ap_ok_iff.mp read
    obtain ⟨_, op, beforeOp, readOp, rfl⟩ := Checked.ap_ok_iff.mp beforeValue
    obtain ⟨field, _, rfl⟩ := Checked.map_ok_iff.mp beforeOp
    obtain ⟨k, foundOp, chosen⟩ := required_read readOp
    obtain ⟨known, rfl⟩ := Shape.choice_eq_ok chosen
    obtain ⟨j, found, isValue⟩ := required_read readValue
    exact ⟨clash_of_valueFault foundOp known found isValue,
      valueFault_of_clash foundOp known found isValue⟩

theorem parameterFault?_eq_some {f : SpatialFilter} {m : Text} : Shape.parameterFault? f = some m ↔
    (f.op = .withinDistance ∧ f.distance = none ∧
      m = "within_distance requires a distance in meters") ∨
    (f.op = .nearest ∧ f.limit = none ∧ m = "nearest requires a limit") := by
  obtain ⟨op, layer, targets, distance, limit⟩ := f
  unfold Shape.parameterFault?
  cases op with
  | withinDistance => simpa using fun _ => eq_comm
  | nearest => simpa using fun _ => eq_comm
  | _ => simp

theorem withinDistance_iff :
    ∀ op ∈ SpatialOp.all, op.name = "within_distance" ↔ op = .withinDistance := by
  decide

theorem nearest_iff : ∀ op ∈ SpatialOp.all, op.name = "nearest" ↔ op = .nearest := by
  decide

theorem spatialFilter_judges : Judges Shape.spatialFilter spatialFilter := by
  apply record_judges
  · intro members
    exact (((((required_reads (choice_judges _ _) _ _).map _).ap
      (required_reads name_judges _ _)).ap
      (optional_reads (list_judges attributeFilter_judges) _ _)).ap
      (optional_reads distance_judges _ _)).ap (optional_reads positive_judges _ _)
  · intro members f read m
    obtain ⟨_, limit, beforeLimit, readLimit, rfl⟩ := Checked.ap_ok_iff.mp read
    obtain ⟨_, distance, beforeDistance, readDistance, rfl⟩ := Checked.ap_ok_iff.mp beforeLimit
    obtain ⟨_, targets, beforeTargets, _, rfl⟩ := Checked.ap_ok_iff.mp beforeDistance
    obtain ⟨_, layer, beforeLayer, _, rfl⟩ := Checked.ap_ok_iff.mp beforeTargets
    obtain ⟨op, readOp, rfl⟩ := Checked.map_ok_iff.mp beforeLayer
    obtain ⟨k, foundOp, chosen⟩ := required_read readOp
    obtain ⟨known, rfl⟩ := Shape.choice_eq_ok chosen
    have named {t : Text} : Json.member? members "op" = some (.str t) ↔ op.name = t := by
      rw [foundOp, Option.some.injEq, Json.str.injEq]
    rw [parameterFault?_eq_some, optional_read readLimit, optional_read readDistance]
    constructor
    · rintro (⟨isWithin, missing, rfl⟩ | ⟨isNearest, missing, rfl⟩)
      · exact .distance (named.mpr ((withinDistance_iff op known).mpr isWithin)) missing
      · exact .limit (named.mpr ((nearest_iff op known).mpr isNearest)) missing
    · intro clash
      cases clash with
      | distance isWithin missing =>
        exact .inl ⟨(withinDistance_iff op known).mp (named.mp isWithin), missing, rfl⟩
      | limit isNearest missing =>
        exact .inr ⟨(nearest_iff op known).mp (named.mp isNearest), missing, rfl⟩

theorem metric_judges : Judges Shape.metric metric :=
  record_judges_noClash fun _ => (((required_reads name_judges _ _).map _).ap
    (required_reads (choice_judges _ _) _ _)).ap (optional_reads name_judges _ _)

theorem aggregate_judges : Judges Shape.aggregate aggregate :=
  record_judges_noClash fun _ => ((required_reads (nonEmptyList_judges name_judges) _ _).map _).ap
    (required_reads (nonEmptyList_judges metric_judges) _ _)

theorem yearRef_judges : Judges Shape.yearRef (record "YearRef" [⟨"year", "year", true, year⟩] noClash) :=
  record_judges_noClash fun _ => (required_reads year_judges _ _).map _

theorem dateRef_judges : Judges Shape.dateRef (record "DateRef" [⟨"date", "date", true, date⟩] noClash) :=
  record_judges_noClash fun _ => (required_reads dateText_judges _ _).map _

theorem timeRef_judges : Judges Shape.timeRef timeRef := by
  intro j
  have asYear := yearRef_judges j
  have asDate := dateRef_judges j
  unfold Shape.timeRef
  cases year : Shape.yearRef j with
  | ok ref =>
    rw [year] at asYear
    exact union_passed List.mem_cons_self (asYear.passed.mp ⟨ref, rfl⟩) ref
  | error found =>
    rw [year] at asYear
    cases date : Shape.dateRef j with
    | ok ref =>
      rw [date] at asDate
      refine union_passed (List.mem_cons_of_mem _ (List.mem_singleton_self _)) ?_ ref
      exact asDate.passed.mp ⟨ref, rfl⟩
    | error more =>
      rw [date] at asDate
      exact union_refused ((tried_one "YearRef" asYear).next (tried_one "DateRef" asDate))

theorem temporal_judges : Judges Shape.temporal temporal :=
  record_judges_noClash fun _ => (((required_reads timeRef_judges _ _).map _).ap
    (required_reads timeRef_judges _ _)).ap (required_reads name_judges _ _)

theorem orderBy_judges : Judges Shape.orderBy orderBy :=
  record_judges_noClash fun _ => ((required_reads name_judges _ _).map _).ap
    (required_reads (choice_judges _ _) _ _)

theorem query_judges : Judges Shape.query query :=
  record_judges_noClash fun _ => ((((((((((required_reads name_judges _ _).map _).ap
    (optional_reads (list_judges name_judges) _ _)).ap
    (optional_reads (list_judges attributeFilter_judges) _ _)).ap
    (optional_reads (choice_judges _ _) _ _)).ap
    (optional_reads (list_judges spatialFilter_judges) _ _)).ap
    (optional_reads (choice_judges _ _) _ _)).ap
    (optional_reads aggregate_judges _ _)).ap
    (optional_reads temporal_judges _ _)).ap
    (optional_reads positive_judges _ _)).ap
    (optional_reads orderBy_judges _ _)

end Form

namespace Query

/-- The check either passes a value of the language or lists all the faults of a value that is not in it. -/
theorem validation_decides_language (raw : Json) :
    ((∃ q, ofJson raw = .ok q) ∧ Form.query.holds raw ∧ ∀ v, ¬ Form.query.faults raw v) ∨
      ¬ Form.query.holds raw ∧ ∃ found, found ≠ [] ∧
        ofJson raw = .error (found.map fun v => ⟨Issue.pathOf v.path, v.message⟩) ∧
        (∀ v, v ∈ found ↔ Form.query.faults raw v) ∧ found.Nodup ∧
        found.Pairwise fun v w => Form.query.before v.path w.path := by
  have verdict := Form.query_judges raw
  unfold ofJson
  cases checked : Shape.query raw with
  | ok q =>
    rw [checked] at verdict
    have good := verdict.passed.mp ⟨q, rfl⟩
    exact .inl ⟨⟨q, rfl⟩, good, verdict.faultless good⟩
  | error found =>
    rw [checked] at verdict
    have some : found ≠ [] := by
      rintro rfl
      obtain ⟨q, contrary⟩ := verdict.silent rfl
      cases contrary
    refine .inr ⟨verdict.bad, found, some, rfl, verdict.told, ?_, verdict.sorted⟩
    apply verdict.sorted.imp
    rintro v _ first rfl
    exact Form.query_strict _ _ first first

example : ofJson (.obj [("select_layer", .str ""), ("limit", .int 0)]) = .error [
    ⟨"select_layer", "String should have at least 1 character"⟩,
    ⟨"limit", "Input should be greater than 0"⟩] := by
  decide

/-- A string of one lone surrogate is not empty, and no name either. -/
theorem lone_surrogate_is_no_name : (⟨[.surrogate 0]⟩ : Text) ≠ "" ∧
    ofJson (.obj [("selectLayer", .str ⟨[.surrogate 0]⟩)]) =
      .error [⟨"selectLayer", Shape.unencodableMessage⟩] := by
  decide

end Query

end SpatialQuery
