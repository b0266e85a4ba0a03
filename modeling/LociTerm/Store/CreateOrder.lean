import LociTerm.Store.Creates

/-!
# The order of concurrent creates

The sort orders of the rows follow the order of the creates as long as every
insert is apart from the rows that are there.
-/

namespace LociTerm
namespace Store
namespace Creates

variable {start state next : Creates} {labels : List CreateLabel}

/-! ## The calls and their rows -/

/-- The ids of the calls differ; a create that has not inserted its row has an
unused id; what had returned before a create has returned; and an order that
was read is above the rows of such creates. -/
structure Linked (state : Creates) : Prop where
  unique : ∀ call other creating another,
    state.calls.get? call = some creating →
    state.calls.get? other = some another →
    creating.id = another.id → call = other
  unused : ∀ call creating, state.calls.get? call = some creating →
    creating.stage.pending = true → ¬ state.db.Uses creating.id
  before : ∀ call creating, state.calls.get? call = some creating →
    ∀ earlier ∈ creating.before, ∃ other another,
      state.calls.get? other = some another ∧ another.id = earlier ∧
        another.stage = .returned
  numbered : ∀ call creating order, state.calls.get? call = some creating →
    creating.stage = .numbered order false →
    ∀ row ∈ state.db.rows creating.target.scope,
      row.1 ∈ creating.before → row.2 < order
  references : state.db.Referring

theorem linked_start (starts : state.Start) : state.Linked where
  unique call other creating another found := by
    rw [starts.calls] at found
    cases found
  unused call creating found := by
    rw [starts.calls] at found
    cases found
  before call creating found := by
    rw [starts.calls] at found
    cases found
  numbered call creating order found := by
    rw [starts.calls] at found
    cases found
  references := starts.references

/-- A call has the id and the past that it had; only its stage changes. -/
theorem of_get?_setStage
    {call other : Nat}
    {creating another : Creating}
    {stage : CreateStage}
    (found : state.calls.get? call = some creating)
    (there : (state.setStage call creating stage).calls.get? other =
      some another) :
    ∃ old, state.calls.get? other = some old ∧ old.id = another.id ∧
      old.before = another.before := by
  simp only [Creates.setStage, Table.get?_set] at there
  split at there
  · next same =>
      subst same
      cases there
      exact ⟨creating, found, rfl, rfl⟩
  · exact ⟨another, there, rfl, rfl⟩

/-- No create has started after one that has yet to return. -/
theorem Linked.notMem_before
    {call other : Nat}
    {creating another : Creating}
    (linked : state.Linked)
    (found : state.calls.get? call = some creating)
    (unfinished : creating.stage ≠ .returned)
    (there : state.calls.get? other = some another) :
    creating.id ∉ another.before := by
  intro member
  obtain ⟨third, finished, again, named, done⟩ :=
    linked.before other another there _ member
  have actor := linked.unique third call finished creating again found named
  subst actor
  rw [found] at again
  cases again
  exact unfinished done

theorem Linked.setStage
    {call : Nat}
    {creating : Creating}
    {stage : CreateStage}
    (linked : state.Linked)
    (found : state.calls.get? call = some creating)
    (pending : stage.pending = true → creating.stage.pending = true)
    (unfinished : creating.stage ≠ .returned)
    (numbered : ∀ order, stage = .numbered order false →
      ∀ row ∈ state.db.rows creating.target.scope,
        row.1 ∈ creating.before → row.2 < order) :
    (state.setStage call creating stage).Linked := by
  refine
    { unique := ?_
      unused := ?_
      before := ?_
      numbered := ?_
      references := linked.references }
  · intro first second left right here there same
    obtain ⟨old, before, named, -⟩ := of_get?_setStage found here
    obtain ⟨other, again, also, -⟩ := of_get?_setStage found there
    exact linked.unique first second old other before again
      (named.trans (same.trans also.symm))
  · intro other another there waiting
    simp only [Creates.setStage, Table.get?_set] at there
    split at there
    · cases there
      exact linked.unused call creating found (pending waiting)
    · exact linked.unused other another there waiting
  · intro other another there earlier member
    obtain ⟨old, before, -, sameBefore⟩ := of_get?_setStage found there
    obtain ⟨third, finished, again, named, done⟩ :=
      linked.before other old before earlier (sameBefore ▸ member)
    refine ⟨third, finished, ?_, named, done⟩
    have different : call ≠ third := by
      rintro rfl
      rw [found] at again
      cases again
      exact unfinished done
    exact (Table.get?_set_of_ne _ _ different).trans again
  · intro other another order there isNumbered
    simp only [Creates.setStage, Table.get?_set] at there
    split at there
    · cases there
      exact numbered order isNumbered
    · exact linked.numbered other another order there isNumbered

/-- The table loses rows. -/
theorem Linked.shrink
    {db : Database}
    (linked : state.Linked)
    (rows : ∀ scope, (db.rows scope).Sublist (state.db.rows scope))
    (uses : ∀ id, db.Uses id → state.db.Uses id)
    (references : db.Referring) :
    Linked { state with db := db } where
  unique := linked.unique
  unused call creating found pending used :=
    linked.unused call creating found pending (uses _ used)
  before := linked.before
  numbered call creating order found isNumbered row member :=
    linked.numbered call creating order found isNumbered row
      ((rows _).subset member)
  references := references

/-- The row of a call that was pending before is inserted. -/
theorem Linked.insert
    {call : Nat}
    {creating : Creating}
    {order : Int}
    {db : Database}
    (linked : state.Linked)
    (found : state.calls.get? call = some creating)
    (stage : creating.stage = .inserted)
    (inserted :
      state.db.insert creating.target creating.id creating.now order = some db) :
    Linked { state with db := db } := by
  refine
    { unique := linked.unique
      unused := ?_
      before := linked.before
      numbered := ?_
      references := linked.references.insert inserted }
  · intro other another there pending used
    rcases Database.uses_insert inserted used with old | same
    · exact linked.unused other another there pending old
    · have actor := linked.unique other call another creating there found same
      subst actor
      rw [found] at there
      cases there
      rw [stage] at pending
      cases pending
  · intro other another number there isNumbered row member earlier
    dsimp only at member
    rw [Database.rows_insert inserted] at member
    rcases List.mem_append.mp member with old | new
    · exact linked.numbered other another number there isNumbered row old earlier
    · split at new
      · rw [List.mem_singleton.mp new] at earlier
        have unfinished : creating.stage ≠ .returned := by
          rw [stage]
          nofun
        exact absurd earlier (linked.notMem_before found unfinished there)
      · cases new

theorem mem_returnedIds
    {id : String}
    (member : id ∈ state.returnedIds) :
    ∃ call creating, state.calls.get? call = some creating ∧
      creating.id = id ∧ creating.stage = .returned := by
  obtain ⟨⟨call, creating⟩, listed, named⟩ := List.mem_map.mp member
  obtain ⟨entry, done⟩ := List.mem_filter.mp listed
  exact ⟨call, creating, (state.calls.mem_entries_iff call creating).mp entry,
    named, of_decide_eq_true done⟩

theorem Linked.starts
    {call : Nat}
    {target : Target}
    {id : String}
    {now : Nat}
    (linked : state.Linked)
    (free : state.calls.get? call = none)
    (unused : state.Unused id) :
    Linked
      { state with
        calls := state.calls.set call
          { target := target
            id := id
            now := now
            before := state.returnedIds
            stage := .started } } := by
  have others : ∀ other another, state.calls.get? other = some another →
      another.id ≠ id ∧ call ≠ other := by
    intro other another there
    refine ⟨unused.2 (other, another)
      ((state.calls.mem_entries_iff other another).mpr there), ?_⟩
    rintro rfl
    rw [free] at there
    cases there
  refine
    { unique := ?_
      unused := ?_
      before := ?_
      numbered := ?_
      references := linked.references }
  · intro first second left right here there same
    simp only [Table.get?_set] at here there
    split at here <;> split at there
    · simp_all
    · cases here
      exact absurd same.symm (others second right there).1
    · cases there
      exact absurd same (others first left here).1
    · exact linked.unique first second left right here there same
  · intro other another there pending
    simp only [Table.get?_set] at there
    split at there
    · cases there
      exact unused.1
    · exact linked.unused other another there pending
  · have returned : ∀ earlier ∈ state.returnedIds, ∃ other another,
        (state.calls.set call
          { target := target
            id := id
            now := now
            before := state.returnedIds
            stage := .started }).get? other = some another ∧
          another.id = earlier ∧ another.stage = .returned := by
      intro earlier member
      obtain ⟨third, finished, again, named, done⟩ := mem_returnedIds member
      exact ⟨third, finished,
        (Table.get?_set_of_ne _ _ (others third finished again).2).trans again,
        named, done⟩
    intro other another there earlier member
    simp only [Table.get?_set] at there
    split at there
    · cases there
      exact returned earlier member
    · obtain ⟨third, finished, again, named, done⟩ :=
        linked.before other another there earlier member
      exact ⟨third, finished,
        (Table.get?_set_of_ne _ _ (others third finished again).2).trans again,
        named, done⟩
  · intro other another order there isNumbered
    simp only [Table.get?_set] at there
    split at there
    · cases there
      cases isNumbered
    · exact linked.numbered other another order there isNumbered

theorem linked_step
    {label : CreateLabel}
    (linked : state.Linked)
    (stepped : step state label = some next) :
    next.Linked := by
  cases moves_of_step stepped with
  | start call target id now free unused => exact linked.starts free unused
  | readMax call fails creating found started =>
      refine linked.setStage found (fun _ => by rw [started]; rfl)
        (by rw [started]; rintro ⟨⟩) ?_
      rintro order ⟨⟩ row member -
      simp only [Database.readMaxOrder, Bool.false_eq_true, if_false]
      exact Database.lt_maxOrder_add_one (List.mem_map_of_mem member)
  | inserts call creating order failed db found numbered inserted =>
      have onward : (state.setStage call creating .inserted).Linked :=
        linked.setStage found (by rintro ⟨⟩)
          (by rw [numbered]; rintro ⟨⟩) (by rintro _ ⟨⟩)
      exact onward.insert (Table.get?_set_self _ _ _) rfl inserted
  | refuses call creating order failed found numbered refused =>
      exact linked.setStage found (by rintro ⟨⟩)
        (by rw [numbered]; rintro ⟨⟩) (by rintro _ ⟨⟩)
  | returns call creating found finished =>
      refine linked.setStage found (by rintro ⟨⟩) ?_ (by rintro _ ⟨⟩)
      rcases finished with done | done
      · rw [done]
        rintro ⟨⟩
      · rw [done]
        rintro ⟨⟩
  | deleteWorkspace id =>
      exact linked.shrink (state.db.rows_deleteWorkspace_sublist id)
        (fun _ => Database.uses_deleteWorkspace)
        (linked.references.deleteWorkspace id)
  | deleteSession id =>
      exact linked.shrink (state.db.rows_deleteSession_sublist id)
        (fun _ => Database.uses_deleteSession)
        (linked.references.deleteSession id)

/-! ## The order of the rows -/

/-- Only the ids of the calls and what was before them matter. -/
theorem Strict.setStage
    {call : Nat}
    {creating : Creating}
    {stage : CreateStage}
    (strict : state.Strict)
    (found : state.calls.get? call = some creating) :
    (state.setStage call creating stage).Strict where
  distinct := strict.distinct
  later other another there := by
    simp only [Creates.setStage, Table.get?_set] at there
    split at there
    · cases there
      exact strict.later call creating found
    · exact strict.later other another there

theorem Strict.shrink
    {db : Database}
    (strict : state.Strict)
    (rows : ∀ scope, (db.rows scope).Sublist (state.db.rows scope)) :
    Strict { state with db := db } where
  distinct scope := (strict.distinct scope).sublist ((rows scope).map _)
  later call creating found earlier member scope lower upper left right :=
    strict.later call creating found earlier member scope lower upper
      ((rows scope).subset left) ((rows scope).subset right)

/-- An insert that is apart keeps the order. -/
theorem Strict.insert
    {call : Nat}
    {creating : Creating}
    {order : Int}
    {failed : Bool}
    {db : Database}
    (strict : state.Strict)
    (linked : state.Linked)
    (found : state.calls.get? call = some creating)
    (numbered : creating.stage = .numbered order failed)
    (inserted :
      state.db.insert creating.target creating.id creating.now order = some db)
    (different : ∀ row ∈ state.db.rows creating.target.scope, row.2 ≠ order)
    (above : failed = true → ∀ row ∈ state.db.rows creating.target.scope,
      row.1 ∈ creating.before → row.2 < order) :
    Strict { state.setStage call creating .inserted with db := db } := by
  have rows := Database.rows_insert inserted
  constructor
  · intro scope
    dsimp only
    rw [rows]
    split
    · next same =>
        subst same
        rw [List.map_append, List.nodup_append]
        refine ⟨strict.distinct _, List.nodup_singleton _, ?_⟩
        rintro _ member _ last rfl
        obtain ⟨row, there, same⟩ := List.mem_map.mp member
        exact different row there (same.trans (List.mem_singleton.mp last))
    · simpa using strict.distinct scope
  · intro other another there earlier member scope lower upper left right
    obtain ⟨old, before, sameId, sameBefore⟩ := of_get?_setStage found there
    rw [← sameBefore] at member
    rw [← sameId] at right
    dsimp only at left right
    rw [rows] at left right
    have unfinished : creating.stage ≠ .returned := by
      rw [numbered]
      nofun
    -- The new row has not returned, so nothing started after it.
    have leftOld : (earlier, lower) ∈ state.db.rows scope := by
      rcases List.mem_append.mp left with there | new
      · exact there
      · split at new
        · cases List.mem_singleton.mp new
          exact absurd member (linked.notMem_before found unfinished before)
        · cases new
    rcases List.mem_append.mp right with oldRow | newRow
    · exact strict.later other old before earlier member scope lower upper
        leftOld oldRow
    · split at newRow
      · next sameScope =>
          subst sameScope
          have shape := List.mem_singleton.mp newRow
          have actor := linked.unique other call old creating before found
            (congrArg Prod.fst shape)
          subst actor
          rw [found] at before
          cases before
          have value : upper = order := congrArg Prod.snd shape
          subst value
          cases failed with
          | true => exact above rfl (earlier, lower) leftOld member
          | false =>
              exact linked.numbered other creating upper found numbered
                (earlier, lower) leftOld member
      · cases newRow

/-- An insert keeps the order exactly if it is apart. -/
theorem strict_insert_iff
    {call : Nat}
    {creating : Creating}
    {order : Int}
    {failed : Bool}
    {db : Database}
    (linked : state.Linked)
    (strict : state.Strict)
    (found : state.calls.get? call = some creating)
    (numbered : creating.stage = .numbered order failed)
    (inserted :
      state.db.insert creating.target creating.id creating.now order = some db) :
    Strict { state.setStage call creating .inserted with db := db } ↔
      (∀ row ∈ state.db.rows creating.target.scope, row.2 ≠ order) ∧
        (failed = true → ∀ row ∈ state.db.rows creating.target.scope,
          row.1 ∈ creating.before → row.2 < order) := by
  have own : db.rows creating.target.scope =
      state.db.rows creating.target.scope ++ [(creating.id, order)] := by
    rw [Database.rows_insert inserted, if_pos rfl]
  constructor
  · intro onward
    constructor
    · intro row member same
      have distinct := onward.distinct creating.target.scope
      dsimp only at distinct
      rw [own, List.map_append, List.nodup_append] at distinct
      exact distinct.2.2 row.2 (List.mem_map_of_mem member) order (by simp) same
    · intro _ row member earlier
      refine onward.later call { creating with stage := .inserted }
        (Table.get?_set_self _ _ _) row.1 earlier creating.target.scope row.2 order ?_ ?_
      · dsimp only
        rw [own]
        exact List.mem_append_left _ member
      · dsimp only
        rw [own]
        exact List.mem_append_right _ (by simp)
  · rintro ⟨different, above⟩
    exact strict.insert linked found numbered inserted different above

theorem strict_step_iff
    {label : CreateLabel}
    (linked : state.Linked)
    (strict : state.Strict)
    (stepped : step state label = some next) :
    next.Strict ↔ state.Apart label := by
  cases moves_of_step stepped with
  | start call target id now free unused =>
      refine iff_of_true ⟨strict.distinct, ?_⟩ trivial
      intro other another there
      simp only [Table.get?_set] at there
      split at there
      · cases there
        intro earlier member scope lower upper _ right
        exact absurd (Database.uses_of_mem_rows right) unused.1
      · exact strict.later other another there
  | readMax call fails creating found started =>
      exact iff_of_true (strict.setStage found) trivial
  | inserts call creating order failed db found numbered inserted =>
      rw [strict_insert_iff linked strict found numbered inserted]
      constructor
      · intro apart another number failure there isNumbered
        rw [found] at there
        cases there
        rw [numbered] at isNumbered
        cases isNumbered
        exact apart
      · intro apart
        exact apart creating order failed found numbered
  | refuses call creating order failed found numbered refused =>
      refine iff_of_true (strict.setStage found) ?_
      intro another number failure there isNumbered
      rw [found] at there
      cases there
      have unused := linked.unused call creating found (by rw [numbered]; rfl)
      have empty := Database.rows_eq_nil_of_refused linked.references unused refused
      simp [empty]
  | returns call creating found finished =>
      exact iff_of_true (strict.setStage found) trivial
  | deleteWorkspace id =>
      exact iff_of_true
        (strict.shrink (state.db.rows_deleteWorkspace_sublist id)) trivial
  | deleteSession id =>
      exact iff_of_true
        (strict.shrink (state.db.rows_deleteSession_sublist id)) trivial

theorem strict_start (starts : state.Start) : state.Strict where
  distinct := starts.orders
  later call creating found := by
    rw [starts.calls] at found
    cases found

/-- In a run of creates and deletes, every state has its rows in the order of
their creates exactly if every insert of the run is apart. -/
theorem strict_iff_apart
    {final : Creates}
    (starts : start.Start)
    (ran : run step start labels = some final) :
    (∀ first middle, first <+: labels → run step start first = some middle →
      middle.Strict) ↔
      Follows step Apart start labels :=
  Follows.iff_forall_states
    (fun _ _ _ linked stepped => linked_step linked stepped)
    (fun _ _ _ linked strict stepped => strict_step_iff linked strict stepped)
    (linked_start starts) (strict_start starts) ran

/-- No rows and no calls. -/
def nothing : Creates := ⟨Database.empty, Table.empty⟩

theorem start_nothing : nothing.Start where
  calls := rfl
  orders scope := by cases scope <;> exact List.nodup_nil
  references := nofun

/-- Two creates of workspaces, of which both read the greatest order before
either inserts its row. -/
def overlapping : List CreateLabel :=
  [.start 0 (.workspace "A") "a" 1, .start 1 (.workspace "B") "b" 1,
    .readMax 0 false, .readMax 1 false, .insert 0, .insert 1, .returns 0,
    .returns 1]

theorem strict_iff_apart_overlapping :
    ∃ final, run step nothing overlapping = some final ∧
      ((∀ first middle, first <+: overlapping →
          run step nothing first = some middle → middle.Strict) ↔
        Follows step Apart nothing overlapping) := by
  have ends : (run step nothing overlapping).isSome = true := by decide
  obtain ⟨final, ran⟩ := Option.isSome_iff_exists.mp ends
  exact ⟨final, ran, strict_iff_apart start_nothing ran⟩

/-- The two workspaces have the same sort order. -/
theorem not_strict_of_overlapping :
    ∃ final, nothing.Start ∧ run step nothing overlapping = some final ∧
      ¬ final.Strict := by
  have outcome :
      (run step nothing overlapping).map (fun final => final.db.rows .workspaces) =
        some [("a", 0), ("b", 0)] := by decide
  obtain ⟨final, ran, rows⟩ := Option.map_eq_some_iff.mp outcome
  refine ⟨final, start_nothing, ran, fun strict => ?_⟩
  have distinct := strict.distinct .workspaces
  rw [rows] at distinct
  exact absurd distinct (by decide)

end Creates
end Store
end LociTerm
