import MigrationScript.Proofs.Token.Tiling

namespace MigrationScript

/-- The tokens are not empty, and each stops before the next one starts. -/
structure Spaced (tokens : List Token) : Prop where
  filled : ∀ token ∈ tokens, token.span.start < token.span.stop
  apart : tokens.Pairwise fun first second => first.span.stop ≤ second.span.start

/-- The bytes from the start of the first to the stop of the last of the tokens. -/
def hull (tokens : List Token) : Span :=
  ⟨(tokens.head?.map (·.span.start)).getD 0, (tokens.getLast?.map (·.span.stop)).getD 0⟩

section Order

variable {first last : Token} {run rest front behind tokens : List Token}

theorem Spaced.of_sublist (h : Spaced tokens) (hrun : run.Sublist tokens) : Spaced run :=
  ⟨fun token hmem => h.filled token (hrun.subset hmem), h.apart.sublist hrun⟩

theorem Spaced.of_append_left (h : Spaced (front ++ behind)) : Spaced front :=
  h.of_sublist (List.sublist_append_left front behind)

theorem Spaced.of_append_right (h : Spaced (front ++ behind)) : Spaced behind :=
  h.of_sublist (List.sublist_append_right front behind)

/-- Tokens of which one part stands in front of the other do not overlap. -/
theorem Spaced.stop_le (h : Spaced (front ++ behind)) (hfirst : first ∈ front)
    (hlast : last ∈ behind) : first.span.stop ≤ last.span.start :=
  (List.pairwise_append.mp h.apart).2.2 first hfirst last hlast

theorem hull_start (h : run.head? = some first) : (hull run).start = first.span.start := by
  rw [hull, h]
  rfl

theorem hull_stop (h : run.getLast? = some last) : (hull run).stop = last.span.stop := by
  rw [hull, h]
  rfl

/-- The first token starts before all others, and the last one stops behind them. -/
theorem Spaced.bounds (h : Spaced run) : ∀ token ∈ run,
    (hull run).start ≤ token.span.start ∧ token.span.stop ≤ (hull run).stop := by
  intro token hmem
  constructor
  · obtain ⟨first, rest, rfl⟩ := List.exists_cons_of_ne_nil (List.ne_nil_of_mem hmem)
    rw [hull_start List.head?_cons]
    rcases List.mem_cons.mp hmem with rfl | hmem
    · exact Nat.le_refl _
    · have hfirst := h.filled first List.mem_cons_self
      have hle := List.rel_of_pairwise_cons h.apart hmem
      omega
  · obtain ⟨front, last, rfl⟩ :=
      (List.eq_nil_or_concat' run).resolve_left (List.ne_nil_of_mem hmem)
    rw [hull_stop List.getLast?_concat]
    rcases List.mem_append.mp hmem with hmem | hmem
    · have hlast := h.filled last (List.mem_append_right _ (List.mem_singleton_self last))
      have hle := h.stop_le hmem (List.mem_singleton_self last)
      omega
    · rw [List.mem_singleton.mp hmem]

/-- From the first token to the last one. -/
theorem Spaced.merge_eq (h : Spaced run) (hfirst : run.head? = some first)
    (hlast : run.getLast? = some last) : first.span.merge last.span = hull run := by
  obtain ⟨hstart, hstop⟩ := h.bounds first (List.mem_of_head? hfirst)
  obtain ⟨hstart', hstop'⟩ := h.bounds last (List.mem_of_getLast? hlast)
  rw [hull_start hfirst] at hstart'
  rw [hull_stop hlast] at hstop
  rw [Span.merge, Nat.min_eq_left hstart', Nat.max_eq_right hstop, ← hull_start hfirst,
    ← hull_stop hlast]

/-- Tokens that stand one behind the other are told by the bytes that they take. -/
theorem Spaced.eq_filter (h : Spaced tokens) (hrun : run <:+: tokens) (hne : run ≠ []) :
    run = tokens.filter fun token =>
      (hull run).start ≤ token.span.start ∧ token.span.stop ≤ (hull run).stop := by
  obtain ⟨front, behind, rfl⟩ := hrun
  have hspaced := h.of_append_left.of_append_right
  have hfirst := List.head_mem hne
  have hlast := List.getLast_mem hne
  have hstart := hull_start (List.head?_eq_some_head hne)
  have hstop := hull_stop (List.getLast?_eq_some_getLast hne)
  have hfront : ∀ token ∈ front, ¬(hull run).start ≤ token.span.start := by
    intro token hmem
    have hle := h.of_append_left.stop_le hmem hfirst
    have hfilled := h.filled token (by simp [hmem])
    omega
  have hbehind : ∀ token ∈ behind, ¬token.span.stop ≤ (hull run).stop := by
    intro token hmem
    have hle := h.stop_le (List.mem_append_right front hlast) hmem
    have hfilled := h.filled token (by simp [hmem])
    omega
  rw [List.filter_append, List.filter_append, List.filter_eq_nil_iff.mpr, List.filter_eq_self.mpr,
    List.filter_eq_nil_iff.mpr, List.nil_append, List.append_nil]
  · intro token hmem hinside
    exact hbehind token hmem (of_decide_eq_true hinside).2
  · intro token hmem
    exact decide_eq_true (hspaced.bounds token hmem)
  · intro token hmem hinside
    exact hfront token hmem (of_decide_eq_true hinside).1

theorem Spaced.run_eq {run' : List Token} (h : Spaced tokens) (hrun : run <:+: tokens)
    (hrun' : run' <:+: tokens) (hne : run ≠ []) (hne' : run' ≠ []) (hhull : hull run = hull run') :
    run = run' := by
  rw [h.eq_filter hrun hne, h.eq_filter hrun' hne', hhull]

end Order

namespace Lexer

theorem Tiles.filled {offset : Nat} {text : List Char} {tokens : List Token}
    (h : Tiles offset text tokens) : ∀ token ∈ tokens, token.span.start < token.span.stop := by
  induction h with
  | finish => exact fun _ hmem => absurd hmem List.not_mem_nil
  | token _ hne _ _ ih =>
    refine List.forall_mem_cons.mpr ⟨?_, ih⟩
    have := width_pos hne
    dsimp only
    omega

theorem spaced_tokensFrom (offset : Nat) (text : List Char) : Spaced (tokensFrom offset text) :=
  ⟨(tiles_tokensFrom offset text).filled, (tiles_tokensFrom offset text).pairwise⟩

/-- From the start of one token of a source to the stop of the same or a later one. -/
theorem Tiles.slice_hull {text : List Char} {tokens run : List Token} (h : Tiles 0 text tokens)
    (hrun : run <:+: tokens) (hne : run ≠ []) :
    ∃ covered, covered ≠ [] ∧ (hull run).slice? text = some covered := by
  have hspaced : Spaced run := Spaced.of_sublist ⟨h.filled, h.pairwise⟩ hrun.sublist
  have hslice := h.exists_slice width_nil
  have hstart := hull_start (List.head?_eq_some_head hne)
  have hstop := hull_stop (List.getLast?_eq_some_getLast hne)
  have hlt : (hull run).start < (hull run).stop := by
    have hfilled := hspaced.filled _ (List.head_mem hne)
    have hbounds := hspaced.bounds _ (List.head_mem hne)
    omega
  obtain ⟨-, taken, -, htaken⟩ := hslice _ (hrun.subset (List.head_mem hne))
  obtain ⟨-, taken', -, htaken'⟩ := hslice _ (hrun.subset (List.getLast_mem hne))
  obtain ⟨front, behind, htext, hfront, -⟩ := Span.slice?_eq_some_iff.mp htaken
  obtain ⟨front', behind', htext', hfront', hlast⟩ := Span.slice?_eq_some_iff.mp htaken'
  rw [List.nil_append] at htext htext'
  -- The source is cut in front of the first token and behind the last one.
  have hcuts : front ++ (taken ++ behind) = (front' ++ taken') ++ behind' := by
    rw [← List.append_assoc, ← htext, htext']
  have hwidth : width (front' ++ taken') = (hull run).stop := by
    rw [width_append, hfront', hlast, hstop]
  obtain ⟨covered, hcovered, -⟩ | ⟨more, hmore, -⟩ := List.append_eq_append_iff.mp hcuts
  · rw [hcovered, width_append, hfront, ← hstart] at hwidth
    refine ⟨covered, ?_, Span.slice?_eq_some_iff.mpr ⟨front, behind', ?_, ?_, hwidth⟩⟩
    · rintro rfl
      rw [width_nil] at hwidth
      omega
    · rw [← hcovered, htext']
    · rw [hfront, hstart]
  · have hlonger := congrArg width hmore
    rw [width_append, hwidth, hfront, ← hstart] at hlonger
    omega

end Lexer

end MigrationScript
