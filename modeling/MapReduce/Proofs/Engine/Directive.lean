import MapReduce.Engine.Processor
import Mathlib

/-! # Splitting a handler's output at its directive

The output of a map handler is a stream of items: directives, pairs and failures. `intoDirective`
takes the first item as the directive and hands on the rest as a stream of pairs, in which a pair
reads as itself, a directive as a failure that carries what the handler printed, and a failure as
itself. Without a directive first, the split fails: with the failure of the first item, or with a
failure that carries what the handler printed.

The stream is read one item at a time. Fanning out creates the child of each pair as it reads it
and stops at the first failing item, so when it fails, one child has been created for each pair
before that item, in order, and nothing else has been done: no fan-out recorded, no child queued,
and no later item read (`mapToDownstream_stops_at_failure`). -/

namespace MapReduce

namespace HandlerOutput

variable (o : HandlerOutput)

/-- The split succeeds exactly when the first item is a directive, and then hands on the other
items, each read as a pair. -/
theorem intoDirective_eq_ok_iff {d : Directive} {ps : List (Except EngineError Pair)} :
    o.intoDirective = .ok (d, ps) ↔ ∃ rest, o.items = .ok (.directive d) :: rest ∧ ps = rest.map o.pairOf := by
  unfold intoDirective
  split
  · rename_i d' rest hitems
    simp only [Except.ok.injEq, Prod.mk.injEq, hitems, List.cons.injEq, Except.ok.injEq,
      HandlerItem.directive.injEq]
    constructor
    · rintro ⟨rfl, rfl⟩
      exact ⟨rest, ⟨rfl, rfl⟩, rfl⟩
    · rintro ⟨rest', ⟨rfl, rfl⟩, rfl⟩
      exact ⟨rfl, rfl⟩
  · rename_i p rest hitems
    simp [hitems]
  · rename_i e rest hitems
    simp [hitems]
  · rename_i hitems
    simp [hitems]

theorem intoDirective_of_nil (h : o.items = []) :
    o.intoDirective = .error (.handlerExecution o.handler "el handler no produjo ninguna directiva"
      o.stdout o.stderr) := by
  simp [intoDirective, h, failure]

theorem intoDirective_of_pair {p : Pair} {rest : List (Except EngineError HandlerItem)}
    (h : o.items = .ok (.pair p) :: rest) :
    o.intoDirective = .error (.handlerExecution o.handler
      "el primer elemento debe ser una directiva MapTo/Return" o.stdout o.stderr) := by
  simp [intoDirective, h, failure]

theorem intoDirective_of_error {err : EngineError} {rest : List (Except EngineError HandlerItem)}
    (h : o.items = .error err :: rest) : o.intoDirective = .error err := by
  simp [intoDirective, h]

end HandlerOutput

namespace Engine

/-- What fanning out does for one pair: a new map invocation of the step below the parent, the pair
as its argument, and the parent's mapped edge to it. -/
def spawnChild (e : Engine) (wf parent step : String) (p : Pair) : EngineM Invocation := do
  let child ← e.createInvocation wf (some parent) step .map
  EngineM.domain ((Dataset.mk wf child.id .arguments).add (pairRecord p))
  EngineM.domain ((Relations.mk wf parent .mapped).add child.id none)
  pure child

/-- A loop over a stream of pairs whose body creates a child for each pair it reads and fails for a
failing item: it creates the children of the pairs before the first failing item, one after the
other, and then fails with that item's failure, reading no item after it. -/
theorem forIn_stream_stops_at_failure
    {f : Except EngineError Pair → List Invocation → EngineM (ForInStep (List Invocation))}
    {spawn : Pair → EngineM Invocation}
    (hok : ∀ p acc, f (.ok p) acc = (fun child => ForInStep.yield (acc ++ [child])) <$> spawn p)
    (herr : ∀ err acc, f (.error err) acc = EngineM.fail err)
    (oks : List Pair) (err : EngineError) (rest : List (Except EngineError Pair))
    (acc : List Invocation) :
    forIn (oks.map .ok ++ .error err :: rest) acc f = (do let _ ← oks.mapM spawn; EngineM.fail err) := by
  induction oks generalizing acc with
  | nil =>
    rw [List.map_nil, List.nil_append, List.forIn_cons, herr]
    simp [EngineM.fail]
  | cons p oks ih =>
    rw [List.map_cons, List.cons_append, List.forIn_cons, hok]
    simp [ih, List.mapM_cons]

/-- When the stream of pairs fails at an item, fanning out loads the next step and its handler,
creates one child for each pair before the item, in order, and fails with the item's failure. -/
theorem mapToDownstream_stops_at_failure (e : Engine) (c : InvocationContext) (next : String)
    (oks : List Pair) (err : EngineError) (rest : List (Except EngineError Pair)) :
    e.mapToDownstream c next (oks.map .ok ++ .error err :: rest) = (do
      let step ← Engine.load Step [c.workflowName, next]
      let _ ← Engine.load Handler [c.workflowName, step.data.mapHandler]
      let _ ← oks.mapM (e.spawnChild c.workflowName c.invocationId step.data.name)
      EngineM.fail err) := by
  unfold Engine.mapToDownstream
  dsimp only
  congr 1
  funext step
  congr 1
  funext handler
  rw [@forIn_stream_stops_at_failure _ (e.spawnChild c.workflowName c.invocationId step.data.name)]
  · simp [EngineM.fail]
  · intro p acc
    obtain ⟨k, v⟩ := p
    simp [EngineM.ofExcept, spawnChild]
  · intro err acc
    simp [EngineM.ofExcept, EngineM.fail]

end Engine

/-- A handler's output splits at its first item. The split gives a directive and the rest of the
stream exactly when the first item is that directive, and the rest is the other items in order,
each read on its own: a pair as itself, a directive as a failure of the handler that carries what
it printed, a failure as itself. With no item, or a pair first, the split fails with a failure of
the handler that carries what it printed; with a failure first, it fails with that failure. When the
directive maps to a next step and the items after it are pairs up to a failing item, fanning out
over the rest creates one child for each of those pairs, in order, then fails with that item's
failure, reading nothing after it. -/
theorem handler_output_splits_at_directive (o : HandlerOutput) :
    (∀ d ps, o.intoDirective = .ok (d, ps) ↔
      ∃ rest, o.items = .ok (.directive d) :: rest ∧ ps = rest.map o.pairOf) ∧
    (∀ p, o.pairOf (.ok (.pair p)) = .ok p) ∧
    (∀ d, o.pairOf (.ok (.directive d)) =
      .error (.handlerExecution o.handler ("directiva inesperada: " ++ d.debugText) o.stdout o.stderr)) ∧
    (∀ err, o.pairOf (.error err) = .error err) ∧
    (o.items = [] → o.intoDirective =
      .error (.handlerExecution o.handler "el handler no produjo ninguna directiva" o.stdout o.stderr)) ∧
    (∀ p rest, o.items = .ok (.pair p) :: rest → o.intoDirective = .error (.handlerExecution o.handler
      "el primer elemento debe ser una directiva MapTo/Return" o.stdout o.stderr)) ∧
    (∀ err rest, o.items = .error err :: rest → o.intoDirective = .error err) ∧
    (∀ (e : Engine) (c : InvocationContext) (next : String) (pairs : List Pair)
        (bad : Except EngineError HandlerItem) (more : List (Except EngineError HandlerItem))
        (err : EngineError),
      o.items = .ok (.directive (.mapTo next)) :: (pairs.map (fun p => .ok (.pair p)) ++ bad :: more) →
      o.pairOf bad = .error err →
      ∃ ps, o.intoDirective = .ok (.mapTo next, ps) ∧ e.mapToDownstream c next ps = (do
        let step ← Engine.load Step [c.workflowName, next]
        let _ ← Engine.load Handler [c.workflowName, step.data.mapHandler]
        let _ ← pairs.mapM (e.spawnChild c.workflowName c.invocationId step.data.name)
        EngineM.fail err)) := by
  refine ⟨fun _ _ => o.intoDirective_eq_ok_iff, fun _ => rfl, fun _ => rfl, fun _ => rfl,
    o.intoDirective_of_nil, fun _ _ => o.intoDirective_of_pair, fun _ _ => o.intoDirective_of_error, ?_⟩
  intro e c next pairs bad more err hitems hbad
  have hrest : (pairs.map (fun p => Except.ok (HandlerItem.pair p)) ++ bad :: more).map o.pairOf =
      pairs.map Except.ok ++ .error err :: more.map o.pairOf := by
    rw [List.map_append, List.map_cons, hbad, List.map_map]
    rfl
  refine ⟨_, o.intoDirective_eq_ok_iff.mpr ⟨_, hitems, rfl⟩, ?_⟩
  rw [hrest]
  exact e.mapToDownstream_stops_at_failure c next pairs err _

/-- A handler that maps two pairs to a next step and then fails, with one more pair after the
failure: the split hands on the rest, and fanning out over it creates the two children and fails. -/
theorem handler_output_two_pairs_then_failure :
    let o : HandlerOutput := ⟨"h", [.ok (.directive (.mapTo "next")), .ok (.pair (.str "a", .null)),
      .ok (.pair (.str "b", .null)), .error (.validation "boom"), .ok (.pair (.str "c", .null))],
      "out", "err"⟩
    let c : InvocationContext := default
    ∃ ps, o.intoDirective = .ok (.mapTo "next", ps) ∧ (default : Engine).mapToDownstream c "next" ps = (do
      let step ← Engine.load Step [c.workflowName, "next"]
      let _ ← Engine.load Handler [c.workflowName, step.data.mapHandler]
      let _ ← [(.str "a", .null), (.str "b", .null)].mapM
        ((default : Engine).spawnChild c.workflowName c.invocationId step.data.name)
      EngineM.fail (.validation "boom")) := by
  intro o c
  exact (handler_output_splits_at_directive o).2.2.2.2.2.2.2 default c "next"
    [(.str "a", .null), (.str "b", .null)] (.error (.validation "boom")) [.ok (.pair (.str "c", .null))]
    (.validation "boom") rfl rfl

end MapReduce
