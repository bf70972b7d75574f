import TableQuery.Proofs.Query.Filter
import TableQuery.Proofs.Query.Pull

/-!
# The rows that a plan has left

`Plan.remaining` gives the rows that a plan has left in a state, computed on whole lists and without
pulls. For a plan without limits it accounts for the pulls (`accounted`), whatever the batches that
the scans cut, so collecting the plan gives exactly these rows (`toOption_collect`). A limit gives
the first of them (`drain_limit`).
-/

namespace TableQuery

open Pull (Accounts Batchwise)

/-! ## Stages on lists that are cut -/

/-- Filtering is a stage that works batch by batch. -/
lemma Filter.batchwise_keep (filter : Filter) :
    Batchwise (fun (_ : Unit) batch => (Result.ofExecution (filter.keep batch), ()))
      (fun _ rows => (filter.keep rows).toOption) where
  nil _ := rfl
  append_of_ok {_ batch kept _} hb rest := by
    have hkept : (filter.keep batch).toOption = some kept := by
      rw [← Result.toOption_ofExecution, (Prod.mk.inj hb).1, Result.toOption_ok]
    simp [filter.keep_append, hkept]
  append_of_error {_ batch e _} hb rest := by
    have hfailed : (filter.keep batch).toOption = none := by
      rw [← Result.toOption_ofExecution, (Prod.mk.inj hb).1, Result.toOption_error]
    simp [filter.keep_append, hfailed]

/-- The items with new keys in two lists are found one after the other. -/
lemma Index.keepNew_append {α : Type} (key : α → String) (seen : Std.HashSet String)
    (front rest : List α) :
    (Index.keepNew key seen (front ++ rest)).1 =
      (Index.keepNew key seen front).1 ++
        (Index.keepNew key (Index.keepNew key seen front).2 rest).1 := by
  induction front generalizing seen with
  | nil => rfl
  | cons item front ih =>
    simp only [List.cons_append, Index.keepNew]
    split
    · exact ih seen
    · simp [ih]

/-- Dropping repeated rows is a stage that works batch by batch. -/
lemma Index.batchwise_keepNew :
    Batchwise
      (fun seen batch =>
        (Except.ok (Index.keepNew Row.groupKey seen batch).1,
          (Index.keepNew Row.groupKey seen batch).2))
      (fun seen rows => some (Index.keepNew Row.groupKey seen rows).1) where
  nil _ := rfl
  append_of_ok {seen batch kept seen'} hb rest := by
    obtain ⟨hkept, rfl⟩ := Prod.mk.inj hb
    rw [Index.keepNew_append, Except.ok.inj hkept]
    rfl
  append_of_error hb := by
    cases hb

/-- No rows are projected to no rows, and without failure. -/
lemma projectRows_nil (columns : Option (List String)) : projectRows columns [] = .ok [] := by
  cases columns <;> rfl

/-- Two lists of rows are projected one after the other. -/
lemma projectRows_append (columns : Option (List String)) (front rest : List Row) :
    projectRows columns (front ++ rest) = do
      let projected ← projectRows columns front
      return projected ++ (← projectRows columns rest) := by
  cases columns with
  | none => rfl
  | some columns => exact List.mapM_append

namespace Plan

/-- The rows that a plan has left in a state, stage by stage on whole lists; none when a stage
fails. -/
def remaining : (plan : Plan) → plan.State → Option (List Row)
  | scan _ _, rows => some rows
  | filter input test, state => do (test.keep (← input.remaining state)).toOption
  | project input columns, state => do (projectRows columns (← input.remaining state)).toOption
  | aggregate input groupBy fields, (state, done) =>
    if done then some []
    else do (aggregateRows groupBy fields (← input.remaining state)).toOption
  | sort input orderBy nullsFirst, (state, done) =>
    if done then some []
    else do (sortRows orderBy nullsFirst (← input.remaining state)).toOption
  | distinct input, (state, seen) => do
    return (Index.keepNew Row.groupKey seen (← input.remaining state)).1
  | limit input count, (state, emitted) => do
    return (← input.remaining state).take (count - emitted)
  | traced input, state => input.remaining state
  | join kind left leftSide right rightSide, (leftState, rightState, done) =>
    if done then some []
    else do
      (Join.rows kind leftSide (← left.remaining leftState) rightSide
        (← right.remaining rightState)).toOption

/-- Whether a plan has no limit anywhere. A limit can stop before its input fails, and so it is the
only operator that hides a failure. -/
def Unlimited : Plan → Prop
  | scan _ _ => True
  | filter input _ => input.Unlimited
  | project input _ => input.Unlimited
  | aggregate input _ _ => input.Unlimited
  | sort input _ _ => input.Unlimited
  | distinct input => input.Unlimited
  | limit _ _ => False
  | traced input => input.Unlimited
  | join _ left _ right _ => left.Unlimited ∧ right.Unlimited

/-- A plan's own account of what its pulls answer. -/
def Accounted (plan : Plan) : Prop := Accounts plan.next plan.pending plan.remaining

section Operators

variable {input : Plan}

/-- A scan has left the rows that it has not cut off yet. -/
lemma accounted_scan (table : String) (rows : List Row) : (scan table rows).Accounted where
  exhausted state hs := by
    have : state = [] := List.eq_nil_of_length_eq_zero hs
    simp [next, this]
  answers state := by
    cases state with
    | nil => rfl
    | cons row rest =>
      refine ⟨?_, ?_⟩
      · exact (congrArg some (List.take_append_drop batchSize (row :: rest))).symm
      · simp only [pending, List.length_drop, List.length_cons, batchSize]
        omega

/-- A filter keeps a part of each batch of its input. -/
lemma accounted_filter (h : input.Accounted) (test : Filter) : (filter input test).Accounted := by
  have hsift := Accounts.sift h test.batchwise_keep
  refine ⟨fun state hs => hsift.exhausted (state, ()) hs, fun state => ?_⟩
  have hanswers := hsift.answers (state, ())
  simp only [next]
  revert hanswers
  rcases Pull.sift input.next _ (input.pending state) state () with ⟨e | _ | kept, state', ⟨⟩⟩
  · exact id
  · exact id
  · exact id

/-- Dropping repeated rows keeps a part of each batch, given the keys that were seen. -/
lemma accounted_distinct (h : input.Accounted) : (distinct input).Accounted :=
  Accounts.sift h Index.batchwise_keepNew

/-- A projection maps each batch of its input. -/
lemma accounted_project (h : input.Accounted) (columns : Option (List String)) :
    (project input columns).Accounted where
  exhausted state hs := by
    have hnone : (input.next state).1 = .ok none := h.exhausted state hs
    rcases hp : input.next state with ⟨answer, state'⟩
    rw [hp] at hnone
    simp only [next, hp, show answer = .ok none from hnone]
  answers state := by
    rcases hp : input.next state with ⟨e | _ | batch, state'⟩
    · simp [next, hp, Pull.Answers, remaining, h.left_of_error hp]
    · simp [next, hp, Pull.Answers, remaining, h.left_of_none hp, projectRows_nil]
    · obtain ⟨hleft, hlt⟩ := h.left_of_some hp
      rcases hb : projectRows columns batch with e | projected
      · have hfailed : (project input columns).remaining state = none := by
          simp [remaining, hleft, Option.bind_map, projectRows_append, hb]
        simp only [next, hp, hb]
        exact hfailed
      · have hcut : (project input columns).remaining state =
            ((project input columns).remaining state').map (projected ++ ·) := by
          simp only [remaining, hleft, Option.bind_eq_bind, Option.bind_map, Option.map_bind]
          refine congrArg _ (funext fun rest => ?_)
          simp [projectRows_append, hb]
        simp only [next, hp, hb]
        exact ⟨hcut, hlt⟩

/-- An aggregation drains its input and hands on its groups in one batch. -/
lemma accounted_aggregate (h : input.Accounted) (groupBy : List String)
    (fields : List SelectItem) : (aggregate input groupBy fields).Accounted := by
  refine Accounts.of_once Prod.snd ?_ ?_
  · rintro ⟨state, done⟩ rfl
    exact ⟨rfl, rfl⟩
  · rintro ⟨state, done⟩ rfl
    have hdrain := h.toOption_drain (Nat.le_refl (input.pending state))
    simp only [next, remaining, ← hdrain]
    rcases Pull.drain input.next (input.pending state) state with ⟨e | rows, state'⟩
    · rfl
    · cases hg : aggregateRows groupBy fields rows with
      | error e => simp [hg, Result.ofExecution, Except.mapError, Except.map]
      | ok grouped => simp [hg, Result.ofExecution, Except.mapError, Except.map]

/-- Sorting drains its input and hands on the sorted rows in one batch. -/
lemma accounted_sort (h : input.Accounted) (orderBy : List OrderKey) (nullsFirst : Bool) :
    (sort input orderBy nullsFirst).Accounted := by
  refine Accounts.of_once Prod.snd ?_ ?_
  · rintro ⟨state, done⟩ rfl
    exact ⟨rfl, rfl⟩
  · rintro ⟨state, done⟩ rfl
    have hdrain := h.toOption_drain (Nat.le_refl (input.pending state))
    simp only [next, remaining, ← hdrain]
    rcases Pull.drain input.next (input.pending state) state with ⟨e | rows, state'⟩
    · rfl
    · cases hs : sortRows orderBy nullsFirst rows with
      | error e => simp [hs]
      | ok sorted => simp [hs]

/-- A join drains both inputs and hands on the merged rows in one batch. -/
lemma accounted_join {left right : Plan} (hl : left.Accounted) (hr : right.Accounted)
    (kind : JoinKind) (leftSide rightSide : JoinSide) :
    (join kind left leftSide right rightSide).Accounted := by
  refine Accounts.of_once (fun state : left.State × right.State × Bool => state.2.2) ?_ ?_
  · rintro ⟨leftState, rightState, done⟩ rfl
    exact ⟨rfl, rfl⟩
  · rintro ⟨leftState, rightState, done⟩ rfl
    have hleft := hl.toOption_drain (Nat.le_refl (left.pending leftState))
    have hright := hr.toOption_drain (Nat.le_refl (right.pending rightState))
    simp only [next, remaining, ← hleft, ← hright]
    rcases Pull.drain left.next (left.pending leftState) leftState with ⟨e | leftRows, leftState'⟩
    · rfl
    · rcases Pull.drain right.next (right.pending rightState) rightState with
        ⟨e | rightRows, rightState'⟩
      · rfl
      · cases hj : Join.rows kind leftSide leftRows rightSide rightRows with
        | error e => simp [hj]
        | ok joined => simp [hj]

end Operators

/-- The remaining rows of a plan without limits account for its pulls. -/
theorem accounted (plan : Plan) (h : plan.Unlimited) : plan.Accounted := by
  induction plan with
  | scan table rows => exact accounted_scan table rows
  | filter input test ih => exact accounted_filter (ih h) test
  | project input columns ih => exact accounted_project (ih h) columns
  | aggregate input groupBy fields ih => exact accounted_aggregate (ih h) groupBy fields
  | sort input orderBy nullsFirst ih => exact accounted_sort (ih h) orderBy nullsFirst
  | distinct input ih => exact accounted_distinct (ih h)
  | limit input count ih => exact h.elim
  | traced input ih => exact ih h
  | join kind left leftSide right rightSide ihl ihr =>
    exact accounted_join (ihl h.1) (ihr h.2) kind leftSide rightSide

/-- Collecting a plan without limits gives the remaining rows, and fails when a stage does. -/
theorem toOption_collect (plan : Plan) (h : plan.Unlimited) (state : plan.State) :
    (plan.collect state).1.toOption = plan.remaining state :=
  (plan.accounted h).toOption_drain (Nat.le_refl _)

/-- Draining a limit gives the first of the rows that its input has left, if these can be had. -/
lemma drain_limit {input : Plan} (h : input.Accounted) (count emitted : Nat) {bound : Nat}
    {state : input.State} {rows : List Row} (hrows : input.remaining state = some rows)
    (hbound : (limit input count).pending (state, emitted) ≤ bound) :
    (Pull.drain (limit input count).next bound (state, emitted)).1 =
      .ok (rows.take (count - emitted)) := by
  induction bound generalizing state emitted rows with
  | zero =>
    have hnil : rows.take (count - emitted) = [] := by
      by_cases hc : count ≤ emitted
      · simp [Nat.sub_eq_zero_of_le hc]
      · have hpending : input.pending state = 0 := by simpa [pending, hc] using hbound
        rw [h.left_of_exhausted hpending] at hrows
        simp [← Option.some.inj hrows]
    rw [hnil, Pull.drain]
  | succ bound ih =>
    by_cases hc : count ≤ emitted
    · simp [Pull.drain, next, hc, Nat.sub_eq_zero_of_le hc]
    · rcases hp : input.next state with ⟨e | _ | batch, state'⟩
      · rw [h.left_of_error hp] at hrows
        cases hrows
      · rw [h.left_of_none hp] at hrows
        simp [Pull.drain, next, hc, hp, ← Option.some.inj hrows]
      · obtain ⟨hleft, hlt⟩ := h.left_of_some hp
        rw [hrows] at hleft
        obtain ⟨rest, hrest, rfl⟩ := Option.map_eq_some_iff.mp hleft.symm
        have hpending : (limit input count).pending
            (state', emitted + (batch.take (count - emitted)).length) ≤ bound := by
          simp only [pending, hc, if_false] at hbound ⊢
          split <;> omega
        have hstep : (limit input count).next (state, emitted) =
            (.ok (some (batch.take (count - emitted))), state',
              emitted + (batch.take (count - emitted)).length) := by
          simp [next, hc, hp]
        -- the batch that is cut counts as emitted, so the next pull takes that much less
        have hleft_to_take : count - (emitted + (batch.take (count - emitted)).length) =
            count - emitted - batch.length := by
          rw [List.length_take]
          omega
        rw [Pull.drain_of_some hstep (ih _ hrest hpending), hleft_to_take, List.take_append]

end Plan

end TableQuery
