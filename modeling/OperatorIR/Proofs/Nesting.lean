import OperatorIR.Proofs.Dispatch

/-!
# Nested extenders

An extender may hand its node on: to a reader, which looks up the extender for the operator, or
straight to another extender, whose failure it puts inside a message of its own. Such layers can
be nested to any depth. On the way in each reader logs the node as it came in; on the way out each
layer adds one context to a failure, and a reader names the node as it is by then. Nothing else
happens between the outermost call and the innermost extender.

## Main definitions

* `OperatorIR.Extender.Layer` — the two kinds of layers.
* `OperatorIR.Extender.Nests` — an extender that consists of layers around an innermost one.
* `OperatorIR.Failure.inLayers` — a failure inside the contexts of layers.

## Main results

* `OperatorIR.Failure.chain_inLayers`, `rootCause_inLayers` — the contexts go in front, in order.
* `OperatorIR.Extender.Nests.apply_eq` — the outcome of all layers together.
* `OperatorIR.Extender.exists_nests` — layers of any kinds can be put around any extender.
* `OperatorIR.Extender.layers_only_add_contexts` — what is kept, and what is added.

## Design

A layer with a reader may choose the reader by the node that it gets. It is asked to hold the next
layer for the one node that is extended; for other nodes it may do anything.
-/

set_option autoImplicit false

namespace OperatorIR

/-! ## Layers -/

namespace Extender

/-- A layer around an extender: the node is handed to a reader, or the failure of the extender gets
a message for its context. -/
inductive Layer where
  | dispatching
  | wrapping (message : String)
  deriving DecidableEq

/-- The context that a layer adds to a failure that leaves the node as given. -/
def Layer.context (n : Node) : Layer → Fault
  | dispatching => .extending n.toLabel
  | wrapping message => .worded message

/-- What that context says. -/
def Layer.message (n : Node) : Layer → String
  | dispatching => "Extending " ++ n.text
  | wrapping message => message

/-- The context of a layer says what the layer says. -/
theorem Layer.message_context (n : Node) (layer : Layer) :
    (layer.context n).message = layer.message n := by
  cases layer <;> rfl

/-- The lines that layers log about the node that comes in: one for each reader. -/
def enteringLog (n : Node) (layers : List Layer) : List LogLine :=
  List.replicate (layers.count .dispatching) ⟨.debug, "Extending " ++ n.text⟩

end Extender

/-! ## Failures inside layers -/

namespace Failure

open Extender (Layer)

/-- A failure inside the contexts of layers, the first layer outermost. -/
def inLayers (n : Node) (layers : List Layer) (e : Failure) : Failure :=
  layers.foldr (fun layer inner => inner.within (layer.context n)) e

/-- Outside all layers a failure is what it is. -/
@[simp] theorem inLayers_nil (n : Node) (e : Failure) : e.inLayers n [] = e := rfl

/-- The first layer puts its context around those of the others. -/
@[simp] theorem inLayers_cons (n : Node) (layer : Layer) (layers : List Layer) (e : Failure) :
    e.inLayers n (layer :: layers) = (e.inLayers n layers).within (layer.context n) := rfl

/-- The contexts go in front of the chain, in the order of the layers. -/
theorem chain_inLayers (n : Node) (layers : List Layer) (e : Failure) :
    (e.inLayers n layers).chain = layers.map (Layer.context n) ++ e.chain := by
  induction layers with
  | nil => rfl
  | cons layer layers ih => rw [inLayers_cons, chain_within, ih, List.map_cons, List.cons_append]

/-- Layers do not change the root cause. -/
theorem rootCause_inLayers (n : Node) (layers : List Layer) (e : Failure) :
    (e.inLayers n layers).rootCause = e.rootCause := by
  induction layers with
  | nil => rfl
  | cons layer layers ih => rw [inLayers_cons, rootCause_within, ih]

/-- The messages of the layers go in front of those of the chain. -/
theorem messages_inLayers (n : Node) (layers : List Layer) (e : Failure) :
    (e.inLayers n layers).messages = layers.map (Layer.message n) ++ e.messages := by
  have hm : Fault.message ∘ Layer.context n = Layer.message n :=
    funext fun layer => layer.message_context n
  rw [messages, chain_inLayers, List.map_append, List.map_map, hm, messages]

end Failure

/-! ## Nesting -/

namespace Extender

/-- The extender consists of the layers, the first one outermost, around the extender `f`, as far
as the node `n` goes: the reader of a layer holds the next layer for the operator of `n`. -/
inductive Nests (f : Extender) (n : Node) : List Layer → Extender → Prop
  | innermost : Nests f n [] f
  | dispatching {layers : List Layer} {g : Extender} (reader : Node → Reader)
      (hg : Nests f n layers g) (h : (reader n).extenderFor n.op = some g) :
      Nests f n (.dispatching :: layers) fun m => (reader m).extend m
  | wrapping {layers : List Layer} {g : Extender} (message : String) (hg : Nests f n layers g) :
      Nests f n (.wrapping message :: layers) fun m => (g m).within (.worded message)

variable {f g : Extender} {n : Node} {layers : List Layer}

/-- Layers of any kinds can be put around any extender. -/
theorem exists_nests (f : Extender) (n : Node) (layers : List Layer) : ∃ g, Nests f n layers g := by
  induction layers with
  | nil => exact ⟨f, .innermost⟩
  | cons layer layers ih =>
    obtain ⟨g, hg⟩ := ih
    cases layer with
    | dispatching =>
      -- a reader that holds nothing but the next layer
      refine ⟨_, .dispatching (fun _ => ⟨(Register.empty.insert n.op g).value⟩) hg ?_⟩
      rw [Reader.extenderFor, Register.get?_insert, if_pos rfl]
    | wrapping message => exact ⟨_, .wrapping message hg⟩

/-- **The outcome of all layers together**: the node is that of the innermost extender, its lines
come after those of the layers, and its failure is inside the layers, in the words that fit the
node as the innermost extender left it.

**Proof sketch.** Induction on the nesting. No layer touches the node before it hands it on, so
every reader finds the next layer under the operator that the node came in with. -/
theorem Nests.apply_eq (h : Nests f n layers g) :
    g n =
      { node := (f n).node
        log := enteringLog n layers ++ (f n).log
        result := (f n).result.mapError (Failure.inLayers (f n).node layers) } := by
  induction h with
  | innermost =>
    cases hr : (f n).result <;> simp [enteringLog, Except.mapError, ← hr]
  | @dispatching layers g reader hg h ih =>
    have hlog : enteringLog n (.dispatching :: layers) =
        ⟨.debug, "Extending " ++ n.text⟩ :: enteringLog n layers := by
      simp [enteringLog, List.replicate_succ]
    show (reader n).extend n = _
    rw [Reader.extend_of_some h, ih, hlog]
    cases (f n).result <;> rfl
  | @wrapping layers g message hg ih =>
    have hlog : enteringLog n (.wrapping message :: layers) = enteringLog n layers := by
      simp [enteringLog]
    show (g n).within (.worded message) = _
    rw [ih, hlog]
    cases (f n).result <;> rfl

/-- The layers succeed exactly when the innermost extender does. -/
theorem Nests.result_eq_ok_iff (h : Nests f n layers g) :
    (g n).result = .ok () ↔ (f n).result = .ok () := by
  rw [h.apply_eq]
  cases (f n).result with
  | ok u => exact iff_of_true rfl rfl
  | error e => exact iff_of_false nofun nofun

/-- A failure of the innermost extender comes out inside the layers. -/
theorem Nests.result_of_error (h : Nests f n layers g) {e : Failure}
    (he : (f n).result = .error e) : (g n).result = .error (e.inLayers (f n).node layers) := by
  rw [h.apply_eq, he]
  rfl

/-- **Layers only add contexts.** Layers of any kinds and any number can be put around any
extender. Whatever they are, the node afterwards is that of the innermost extender, and they
succeed exactly when it does. Its failure comes out with its own chain at the end, root cause
included, behind one message for each layer, the outermost first: the fixed one of the layer, or
one that names the node as it is afterwards. Its lines come after one for each reader, which names
the node as it came in. -/
theorem layers_only_add_contexts (f : Extender) (n : Node) (layers : List Layer) :
    (∃ g, Nests f n layers g) ∧
      ∀ g, Nests f n layers g →
        (g n).node = (f n).node ∧
        ((g n).result = .ok () ↔ (f n).result = .ok ()) ∧
        (∀ e, (f n).result = .error e → ∃ e', (g n).result = .error e' ∧
          e'.messages = layers.map (Layer.message (f n).node) ++ e.messages ∧
          e'.chain.drop layers.length = e.chain ∧
          e'.rootCause = e.rootCause ∧
          e'.chain.length = e.chain.length + layers.length) ∧
        (g n).log = List.replicate (layers.count .dispatching) ⟨.debug, "Extending " ++ n.text⟩ ++
          (f n).log := by
  refine ⟨exists_nests f n layers, ?_⟩
  intro g h
  refine ⟨by rw [h.apply_eq], h.result_eq_ok_iff, ?_, by rw [h.apply_eq]; rfl⟩
  intro e he
  have hchain := Failure.chain_inLayers (f n).node layers e
  refine ⟨_, h.result_of_error he, Failure.messages_inLayers _ _ _, ?_,
    Failure.rootCause_inLayers _ _ _, ?_⟩
  · rw [hchain]
    exact List.drop_left' (List.length_map _)
  · rw [hchain, List.length_append, List.length_map, Nat.add_comm]

end Extender

end OperatorIR
