import MigrationScript.Proofs.Token.Spaced
import MigrationScript.Proofs.Tree.Grammar
import MigrationScript.Proofs.Tree.Moved

/-!
# Nodes and their tokens

A node sits on the tokens that spell it. That its children stand within it, one behind the other, is
read off the tokens, so that it holds of their bytes as well.
-/

namespace MigrationScript

/-- A part of a script that has a place in the source. -/
inductive Node
  | expr (expr : Expr)
  | call (call : Call)
  | argument (argument : Argument)
  | member (member : Member)

namespace Node

def span : Node → Span
  | .expr value => value.span
  | .call made => made.span
  | .argument given => given.span
  | .member part => part.span

/-- The nodes right below, in the order of the source. -/
def children : Node → List Node
  | .expr (.array items _) => items.map .expr
  | .expr (.object members _) => members.map .member
  | .expr (.function _ body _) => [.expr body]
  | .expr (.block _ statements _) => statements.map .call
  | .expr (.call nested) => [.call nested]
  | .expr (.constant _ _) | .expr (.path _ _) => []
  | .call made => made.arguments.map .argument
  | .argument given => [.expr given.value]
  | .member (.named _ value _) => [.expr value]
  | .member (.path _ _) => []

/-- The grammar derives the node from the kinds. -/
def SpeltBy (kinds : List TokenKind) : Node → Prop
  | .expr value => ExprForm kinds value.eraseSpans
  | .call made => CallForm ExprForm kinds made.eraseSpans
  | .argument given => ArgumentForm ExprForm kinds given.eraseSpans
  | .member part => MemberForm ExprForm kinds part.eraseSpans

theorem SpeltBy.ne_nil {kinds : List TokenKind} {node : Node} (h : node.SpeltBy kinds) :
    kinds ≠ [] := by
  cases node with
  | expr value => exact ExprForm.ne_nil h
  | call made => exact CallForm.ne_nil h
  | argument given => exact ArgumentForm.ne_nil h
  | member part => exact MemberForm.ne_nil h

end Node

/-- The node itself and the nodes below it. -/
inductive Within (node : Node) : Node → Prop
  | self : Within node node
  | child {inner child : Node} : Within node inner → child ∈ inner.children → Within node child

/-! ### The tokens of a node -/

/-- Among the tokens stand those of the nodes, one node behind the other. -/
inductive Parts (holds : List Token → Node → Prop) : List Token → List Node → Prop
  | nil {gap : List Token} : Parts holds gap []
  | cons {gap run rest : List Token} {node : Node} {others : List Node} :
    holds run node → Parts holds rest others → Parts holds (gap ++ (run ++ rest)) (node :: others)

section Parts

variable {holds : List Token → Node → Prop} {tokens tokens' : List Token} {node : Node}
  {nodes nodes' : List Node}

theorem Parts.prepend (front : List Token) (h : Parts holds tokens nodes) :
    Parts holds (front ++ tokens) nodes := by
  cases h with
  | nil => exact .nil
  | cons hnode hothers =>
    rw [← List.append_assoc]
    exact .cons hnode hothers

theorem Parts.append (h : Parts holds tokens nodes) (h' : Parts holds tokens' nodes') :
    Parts holds (tokens ++ tokens') (nodes ++ nodes') := by
  induction h with
  | nil => exact h'.prepend _
  | cons hnode _ ih =>
    rw [List.append_assoc, List.append_assoc]
    exact .cons hnode ih

theorem Parts.single (h : holds tokens node) : Parts holds tokens [node] := by
  have hparts : Parts holds ([] ++ (tokens ++ [])) [node] := .cons h .nil
  rwa [List.nil_append, List.append_nil] at hparts

theorem Parts.exists_of_mem (h : Parts holds tokens nodes) :
    ∀ node ∈ nodes, ∃ run, run <:+: tokens ∧ holds run node := by
  induction h with
  | nil => exact fun _ hmem => absurd hmem List.not_mem_nil
  | @cons gap run rest node others hnode _ ih =>
    intro other hmem
    rcases List.mem_cons.mp hmem with rfl | hmem
    · exact ⟨run, ⟨gap, rest, List.append_assoc gap run rest⟩, hnode⟩
    · obtain ⟨run', hrun, hother⟩ := ih other hmem
      refine ⟨run', hrun.trans ?_, hother⟩
      rw [← List.append_assoc]
      exact (List.suffix_append (gap ++ run) rest).isInfix

end Parts

/-- Whatever stands behind them, the tokens and a semicolon are read as the call and nothing
else. -/
def Alone (run : List Token) (made : Call) : Prop :=
  ∀ (semicolon finish : Token) (previous : Span), semicolon.kind = .punctuation .semicolon →
    finish.kind = .endOfInput → parseFrom ⟨run ++ [semicolon], finish, previous⟩ = .ok [made]

/-- The node and all nodes below it take tokens that spell them, from the start of the first to the
stop of the last of these, and a call is what is read from its tokens alone. -/
inductive Sits : List Token → Node → Prop
  | node {run : List Token} {node : Node} : node.SpeltBy (run.map (·.kind)) →
    node.span = hull run → (∀ made, node = .call made → Alone run made) →
      Parts Sits run node.children → Sits run node

namespace Sits

variable {run : List Token} {node inner : Node}

theorem ne_nil (h : Sits run node) : run ≠ [] := by
  rintro rfl
  cases h with
  | node hspelt => exact hspelt.ne_nil rfl

theorem spelt (h : Sits run node) : node.SpeltBy (run.map (·.kind)) := by
  cases h with
  | node hspelt => exact hspelt

theorem span_eq (h : Sits run node) : node.span = hull run := by
  cases h with
  | node _ hspan => exact hspan

/-- A node below takes some of the tokens. -/
theorem within (h : Sits run node) (hinner : Within node inner) :
    ∃ taken, taken <:+: run ∧ Sits taken inner := by
  induction hinner with
  | self => exact ⟨run, List.infix_rfl, h⟩
  | child _ hchild ih =>
    obtain ⟨taken, htaken, hsits⟩ := ih
    cases hsits with
    | node _ _ _ hparts =>
      obtain ⟨taken', htaken', hsits⟩ := hparts.exists_of_mem _ hchild
      exact ⟨taken', htaken'.trans htaken, hsits⟩

theorem ends (h : Sits run node) : ∃ first ∈ run, ∃ last ∈ run,
    node.span.start = first.span.start ∧ node.span.stop = last.span.stop := by
  have hne := h.ne_nil
  refine ⟨_, List.head_mem hne, _, List.getLast_mem hne, ?_, ?_⟩
  · rw [h.span_eq, hull_start (List.head?_eq_some_head hne)]
  · rw [h.span_eq, hull_stop (List.getLast?_eq_some_getLast hne)]

end Sits

section Order

variable {tokens run : List Token} {nodes : List Node} {node : Node}

/-- A node whose tokens stand among others stands between the first and the last of these. -/
theorem Spaced.inside (hspaced : Spaced tokens) (hrun : run ⊆ tokens) (h : Sits run node) :
    (hull tokens).start ≤ node.span.start ∧ node.span.stop ≤ (hull tokens).stop := by
  obtain ⟨first, hfirst, last, hlast, hstart, hstop⟩ := h.ends
  rw [hstart, hstop]
  exact ⟨(hspaced.bounds first (hrun hfirst)).1, (hspaced.bounds last (hrun hlast)).2⟩

theorem Parts.pairwise (h : Parts Sits tokens nodes) (hspaced : Spaced tokens) :
    nodes.Pairwise fun first second => first.span.stop ≤ second.span.start := by
  induction h with
  | nil => exact .nil
  | @cons gap run rest node others hnode hothers ih =>
    rw [← List.append_assoc] at hspaced
    refine .cons (fun other hother => ?_) (ih hspaced.of_append_right)
    obtain ⟨run', hrun', hsits⟩ := hothers.exists_of_mem other hother
    obtain ⟨-, -, last, hlast, -, hstop⟩ := hnode.ends
    obtain ⟨first, hfirst, -, -, hstart, -⟩ := hsits.ends
    rw [hstop, hstart]
    exact hspaced.stop_le (List.mem_append_right gap hlast) (hrun'.subset hfirst)

/-- The children of a node stand within it, in order and without a common byte. -/
theorem Sits.children (h : Sits run node) (hspaced : Spaced run) :
    (∀ child ∈ node.children,
      node.span.start ≤ child.span.start ∧ child.span.stop ≤ node.span.stop) ∧
    node.children.Pairwise fun first second => first.span.stop ≤ second.span.start := by
  cases h with
  | node _ hspan _ hparts =>
    refine ⟨fun child hchild => ?_, hparts.pairwise hspaced⟩
    obtain ⟨taken, htaken, hsits⟩ := hparts.exists_of_mem child hchild
    rw [hspan]
    exact hspaced.inside htaken.subset hsits

end Order

end MigrationScript
