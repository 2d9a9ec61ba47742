import JavacLaunch.Proofs.Given

/-!
# JavacLaunch.Proofs.Grammar

The command lines that are accepted.

Two readers must agree on a command line: the scan that finds where the launcher's own part ends,
and the reader of that part. `OwnPart` is the grammar that both follow.

* `OwnPart.ownSpan_args`: the scan finds the end of an own part, whatever follows it.
* `OwnPart.readOwn_args`: the reader accepts an own part, and reads what it says.
* `exists_ownPart`: what both accept is an own part.
* `ofArgv_eq_ok_iff`: a command line is accepted exactly if it is a name, an own part and texts.
-/

namespace JavacLaunch

/-- The launcher's own part of a command line: options, perhaps a mark that ends them, and three
operands. -/
structure OwnPart where
  given : List Given
  ended : Bool
  runtime : String
  compiler : String
  tool : String
  wellFormed : ∀ g ∈ given, g.WellFormed
  once : (given.map Given.kind).Nodup
  words : ended = false → ∀ s ∈ [runtime, compiler, tool], IsWord (Utf8.encode s)

namespace OwnPart

def operands (p : OwnPart) : List String :=
  [p.runtime, p.compiler, p.tool]

def behindOptions (p : OwnPart) : List Bytes :=
  (if p.ended then [endOfOptions] else []) ++ p.operands.map Utf8.encode

def args (p : OwnPart) : List Bytes :=
  p.given.flatMap Given.args ++ p.behindOptions

/-- The command that an own part asks for, with the texts that follow it. -/
def command (p : OwnPart) (passed : List String) : Command :=
  ⟨.ofGiven p.given, ⟨p.runtime, p.compiler, p.tool, passed⟩⟩

end OwnPart

theorem optionSpan_flatMap {gs : List Given} (h : ∀ g ∈ gs, g.WellFormed) (rest : List Bytes) :
    optionSpan (gs.flatMap Given.args ++ rest) =
      (gs.flatMap Given.args).length + optionSpan rest := by
  induction gs with
  | nil => simp
  | cons g gs ih =>
    rw [List.flatMap_cons, List.append_assoc, Given.optionSpan_args (h g (by simp)),
      ih fun g' hg' => h g' (List.mem_cons_of_mem g hg'), List.length_append, Nat.add_assoc]

/-- A row of options, each of them readable and none of a kind that was given before. -/
theorem readOwn_flatMap {gs more : List Given} {r' : Reading} {rest : List Bytes}
    (hw : ∀ g ∈ more, g.Readable) (hn : ((gs ++ more).map Given.kind).Nodup) :
    (Reading.ofGiven gs).readOwn (more.flatMap Given.args ++ rest) = .ok r' ↔
      (Reading.ofGiven (gs ++ more)).readOwn rest = .ok r' := by
  induction more generalizing gs with
  | nil => simp
  | cons g more ih =>
    have hsplit : gs ++ g :: more = gs ++ [g] ++ more := by simp
    have hnew : g.kind ∉ gs.map Given.kind := by
      rw [hsplit, List.map_append, List.map_append] at hn
      have := (List.nodup_append.1 (List.nodup_append.1 hn).1).2.2
      intro hg
      exact this _ hg _ (by simp) rfl
    rw [List.flatMap_cons, List.append_assoc, Reading.readOwn_args, hsplit,
      ← ih (fun g' hg' => hw g' (List.mem_cons_of_mem g hg')) (hsplit ▸ hn)]
    exact ⟨fun h => h.2.2, fun h => ⟨hw g (by simp), hnew, h⟩⟩

namespace OwnPart

theorem optionSpan_behindOptions (p : OwnPart) (rest : List Bytes) :
    optionSpan (p.behindOptions ++ rest) + 3 = p.behindOptions.length := by
  cases h : p.ended with
  | true =>
    simp only [behindOptions, operands, h, if_true, List.map_cons, List.map_nil, List.cons_append,
      List.nil_append, optionSpan_end]
    rfl
  | false =>
    have hword := p.words h p.runtime (by simp)
    simp only [behindOptions, operands, h, Bool.false_eq_true, if_false, List.map_cons, List.map_nil,
      List.cons_append, List.nil_append, optionSpan_word hword]
    rfl

theorem optionSpan_args (p : OwnPart) (rest : List Bytes) :
    optionSpan (p.args ++ rest) + 3 = p.args.length := by
  rw [args, List.append_assoc, optionSpan_flatMap p.wellFormed, List.length_append, Nat.add_assoc,
    p.optionSpan_behindOptions]

theorem readOwn_behindOptions (p : OwnPart) {r : Reading} (hr : r.pending = none) :
    r.readOwn p.behindOptions = .ok (r.push p.operands) := by
  cases h : p.ended with
  | true =>
    simp only [behindOptions, h, if_true, List.cons_append, List.nil_append]
    exact (Reading.readOwn_end hr).2 ⟨p.operands, rfl, rfl⟩
  | false =>
    simp only [behindOptions, h, Bool.false_eq_true, if_false, List.nil_append]
    exact Reading.readOwn_words hr (p.words h)

theorem readOwn_args (p : OwnPart) :
    (Reading.ofGiven []).readOwn p.args = .ok ((Reading.ofGiven p.given).push p.operands) := by
  have hreadable : ∀ g ∈ p.given, g.Readable := fun g hg => (p.wellFormed g hg).1
  have honce : (([] ++ p.given).map Given.kind).Nodup := p.once
  rw [args, readOwn_flatMap hreadable honce, List.nil_append]
  exact p.readOwn_behindOptions rfl

end OwnPart

section Accepted

variable {gs : List Given} {r' : Reading}

theorem exists_three {ss : List String} {rest : List Bytes} (hss : rest.take 3 = ss.map Utf8.encode)
    (h3 : 3 ≤ ((Reading.ofGiven gs).push ss).operands.length) :
    ∃ runtime compiler tool, ss = [runtime, compiler, tool] := by
  have hmost : ss.length ≤ 3 := by
    rw [← List.length_map Utf8.encode, ← hss]
    exact List.length_take_le 3 rest
  have hleast : 3 ≤ ss.length := h3
  match ss with
  | [runtime, compiler, tool] => exact ⟨runtime, compiler, tool, rfl⟩

/-- Where the scan finds no option, three operands are three words. -/
theorem exists_words (hw : ∀ g ∈ gs, g.WellFormed) (hn : (gs.map Given.kind).Nodup)
    {rest : List Bytes} (h : (Reading.ofGiven gs).readOwn (rest.take 3) = .ok r')
    (h3 : 3 ≤ r'.operands.length) :
    ∃ p : OwnPart, p.given = gs ∧ rest = p.behindOptions ++ rest.drop 3 ∧
      r' = (Reading.ofGiven p.given).push p.operands := by
  have hlen : (rest.take 3).length ≤ 3 := List.length_take_le 3 rest
  have hnone : (Reading.ofGiven gs).operands.length = 0 := rfl
  obtain ⟨ss, hss, hwords, rfl⟩ := Reading.words_of_operands_length rfl h (by omega)
  obtain ⟨runtime, compiler, tool, rfl⟩ := exists_three hss h3
  have hwords' : ∀ s ∈ [runtime, compiler, tool], IsWord (Utf8.encode s) := by
    intro s hs
    exact hwords _ (hss ▸ List.mem_map_of_mem hs)
  refine ⟨⟨gs, false, runtime, compiler, tool, hw, hn, fun _ => hwords'⟩, rfl, ?_, rfl⟩
  simp only [OwnPart.behindOptions, OwnPart.operands, ← hss, Bool.false_eq_true, if_false,
    List.nil_append, List.take_append_drop]

/-- Behind the end of the options there are three operands. -/
theorem exists_ended (hw : ∀ g ∈ gs, g.WellFormed) (hn : (gs.map Given.kind).Nodup)
    {rest : List Bytes} (h : (Reading.ofGiven gs).readOwn (endOfOptions :: rest.take 3) = .ok r')
    (h3 : 3 ≤ r'.operands.length) :
    ∃ p : OwnPart, p.given = gs ∧ endOfOptions :: rest = p.behindOptions ++ rest.drop 3 ∧
      r' = (Reading.ofGiven p.given).push p.operands := by
  obtain ⟨ss, hss, rfl⟩ := (Reading.readOwn_end rfl).1 h
  obtain ⟨runtime, compiler, tool, rfl⟩ := exists_three hss h3
  refine ⟨⟨gs, true, runtime, compiler, tool, hw, hn, fun h => by cases h⟩, rfl, ?_, rfl⟩
  simp only [OwnPart.behindOptions, OwnPart.operands, ← hss, if_true, List.cons_append,
    List.nil_append, List.take_append_drop]

/-- Where the scan goes on, an option stands first. -/
theorem exists_option {arg : Bytes} {rest : List Bytes}
    (h : (Reading.ofGiven gs).readOwn ((arg :: rest).take (optionSpan (arg :: rest) + 3)) = .ok r')
    (hspan : optionSpan (arg :: rest) ≠ 0) (hend : arg ≠ endOfOptions) :
    ∃ (g : Given) (after : List Bytes), arg :: rest = g.args ++ after ∧ g.WellFormed ∧
      g.kind ∉ gs.map Given.kind ∧
      (Reading.ofGiven (gs ++ [g])).readOwn (after.take (optionSpan after + 3)) = .ok r' := by
  have hword : ¬ IsWord arg := fun hword => hspan (optionSpan_word hword rest)
  have hfirst := h
  rw [List.take_succ_cons] at hfirst
  obtain ⟨g, rest', hg⟩ := Reading.first_given hfirst hend hword
  have hread := (Reading.readOwn_args.1 (hg ▸ hfirst)).1
  -- the option lies within what the scan cuts off, so it comes first in the whole
  rw [← List.take_succ_cons] at hg
  obtain ⟨after, hafter⟩ : g.args <+: arg :: rest :=
    List.IsPrefix.trans ⟨rest', hg.symm⟩ (List.take_prefix _ _)
  rw [← hafter] at h hspan ⊢
  have hw := Given.wellFormed_of_readable hread hspan
  rw [Given.optionSpan_args hw, Nat.add_assoc, List.take_length_add_append, Reading.readOwn_args] at h
  exact ⟨g, after, rfl, hw, h.2⟩

end Accepted

theorem exists_ownPart {n : Nat} : ∀ {gs : List Given} {rest : List Bytes} {r' : Reading},
    rest.length ≤ n → (∀ g ∈ gs, g.WellFormed) → (gs.map Given.kind).Nodup →
    (Reading.ofGiven gs).readOwn (rest.take (optionSpan rest + 3)) = .ok r' →
    3 ≤ r'.operands.length →
    ∃ (p : OwnPart) (more : List Given), p.given = gs ++ more ∧
      rest = more.flatMap Given.args ++ (p.behindOptions ++ rest.drop (optionSpan rest + 3)) ∧
      r' = (Reading.ofGiven p.given).push p.operands := by
  induction n with
  | zero =>
    intro gs rest r' hlen hw hn h h3
    rw [List.eq_nil_of_length_eq_zero (Nat.le_zero.1 hlen)] at h ⊢
    obtain ⟨p, hp, hrest, hr'⟩ := exists_words hw hn h h3
    exact ⟨p, [], by rw [hp, List.append_nil], hrest, hr'⟩
  | succ n ih =>
    intro gs rest r' hlen hw hn h h3
    by_cases hspan : optionSpan rest = 0
    · rw [hspan] at h ⊢
      obtain ⟨p, hp, hrest, hr'⟩ := exists_words hw hn h h3
      exact ⟨p, [], by rw [hp, List.append_nil], hrest, hr'⟩
    cases rest with
    | nil => exact absurd rfl hspan
    | cons arg rest =>
      by_cases hend : arg = endOfOptions
      · subst hend
        rw [optionSpan_end] at h ⊢
        obtain ⟨p, hp, hrest, hr'⟩ := exists_ended hw hn h h3
        exact ⟨p, [], by rw [hp, List.append_nil], hrest, hr'⟩
      obtain ⟨g, after, hrest, hg, hnew, hafter⟩ := exists_option h hspan hend
      rw [hrest] at hlen ⊢
      have hshort : after.length ≤ n := by
        have := g.args_length_pos
        rw [List.length_append] at hlen
        omega
      have hw' : ∀ g' ∈ gs ++ [g], g'.WellFormed := by
        intro g' hg'
        rcases List.mem_append.1 hg' with hg' | hg'
        · exact hw g' hg'
        · rw [List.mem_singleton.1 hg']; exact hg
      have hn' : ((gs ++ [g]).map Given.kind).Nodup := by
        rw [List.map_append, List.nodup_append]
        refine ⟨hn, by simp, ?_⟩
        intro k hk k' hk' he
        rw [List.map_singleton, List.mem_singleton] at hk'
        exact hnew (hk' ▸ he ▸ hk)
      obtain ⟨p, more, hp, hmore, hr'⟩ := ih hshort hw' hn' hafter h3
      refine ⟨p, g :: more, by simp [hp], ?_, hr'⟩
      rw [Given.optionSpan_args hg, Nat.add_assoc, List.drop_length_add_append, List.flatMap_cons,
        List.append_assoc, ← hmore]

/-- A command line is accepted exactly if it is a name, an own part and texts. -/
theorem ofArgv_eq_ok_iff (argv : List Bytes) (c : Command) :
    Command.ofArgv argv = .ok c ↔
      ∃ (name : Bytes) (p : OwnPart) (passed : List String),
        argv = name :: (p.args ++ passed.map Utf8.encode) ∧ c = p.command passed := by
  constructor
  · intro h
    cases argv with
    | nil => cases h
    | cons name rest =>
      rw [ofArgv_cons, bind_eq_ok, ← Reading.ofGiven_nil] at h
      obtain ⟨r, hread, h⟩ := h
      obtain ⟨runtime, compiler, tool, more, passed, ho, hpassed, rfl⟩ := ofReading_eq_ok.1 h
      have h3 : 3 ≤ r.operands.length := by
        rw [ho]
        exact Nat.le_add_left 3 _
      have hnone : ∀ g ∈ ([] : List Given), g.WellFormed := by simp
      obtain ⟨p, gs, hp, hrest, rfl⟩ :=
        exists_ownPart (Nat.le_refl _) hnone List.nodup_nil hread h3
      cases ho
      refine ⟨name, p, passed, ?_, rfl⟩
      rw [OwnPart.args, hp, List.nil_append, List.append_assoc, ← hpassed, ← hrest]
  · rintro ⟨name, p, passed, rfl, rfl⟩
    rw [ofArgv_cons, p.optionSpan_args, List.take_left, List.drop_left, bind_eq_ok]
    exact ⟨_, p.readOwn_args, ofReading_eq_ok.2 ⟨_, _, _, _, passed, rfl, rfl, rfl⟩⟩

end JavacLaunch
