import LitNote.Proofs.Template.Token

/-!
A template from one token to the next: it starts with a complete tag, or with a run of characters up
to the next tag or the end.
-/

namespace LitNote.Template

namespace Token

theorem raw_ofBlock (name raw : Text) (inverted : Bool) :
    (ofBlock name raw inverted).raw = raw := by
  rw [ofBlock]
  split <;> rfl

theorem raw_ofVariable (body raw : Text) : (ofVariable body raw).raw = raw := by
  rw [ofVariable]
  split
  · rfl
  · split <;> rfl

theorem raw_ofTag (body raw : Text) : (ofTag body raw).raw = raw := by
  rw [ofTag.eq_def]
  split
  · exact raw_ofBlock _ raw false
  · exact raw_ofBlock _ raw true
  · rfl
  · exact raw_ofVariable _ raw

theorem exists_of_tagBody? {s body : Text} (h : tagBody? s = some body) :
    '}' ∉ body ∧ ∃ rest, s = tagRaw body ++ rest := by
  rw [tagBody?.eq_def] at h
  split at h
  · next rest =>
    dsimp only at h
    split at h
    · next more hdrop =>
      cases h
      have hsplit := @List.takeWhile_append_dropWhile _ (· != '}') rest
      rw [hdrop] at hsplit
      refine ⟨fun hmem => ?_, more, ?_⟩
      · have hne := List.mem_takeWhile_imp hmem
        rw [bne_self_eq_false] at hne
        cases hne
      · rw [tagRaw, List.cons_append, List.cons_append, List.append_assoc]
        exact congrArg ('{' :: '{' :: ·) hsplit.symm
    · cases h
  · cases h

end Token

def BeginsTag (s : Text) : Prop := ∃ body rest, '}' ∉ body ∧ s = Token.tagRaw body ++ rest

theorem Token.tagBody?_eq_none_iff {s : Text} : tagBody? s = none ↔ ¬BeginsTag s := by
  constructor
  · rintro h ⟨body, rest, hbody, rfl⟩
    rw [tagBody?_tagRaw hbody] at h
    cases h
  · intro h
    cases hs : tagBody? s with
    | none => rfl
    | some body =>
      obtain ⟨hbody, rest, heq⟩ := exists_of_tagBody? hs
      exact absurd ⟨body, rest, hbody, heq⟩ h

theorem BeginsTag.head?_eq {s : Text} (h : BeginsTag s) : s.head? = some '{' := by
  obtain ⟨body, rest, -, rfl⟩ := h
  rfl

/-- Plain text in front of `rest`: no tag begins in it, and it goes on up to a tag or the end. -/
structure IsRun (run rest : Text) : Prop where
  ne_nil : run ≠ []
  ends : StartsTag rest
  noTag : ∀ i < run.length, ¬BeginsTag ((run ++ rest).drop i)

theorem IsRun.of_noBrace {s rest : Text} (hne : s ≠ []) (h : '{' ∉ s) (hrest : StartsTag rest) :
    IsRun s rest := by
  refine ⟨hne, hrest, fun i hi htag => h ?_⟩
  have hhead := htag.head?_eq
  rw [List.head?_drop, List.getElem?_append_left hi] at hhead
  exact List.mem_of_getElem? hhead

theorem IsRun.tail {c d : Char} {run rest : Text} (h : IsRun (c :: d :: run) rest) :
    IsRun (d :: run) rest :=
  ⟨List.cons_ne_nil _ _, h.ends, fun i hi => h.noTag (i + 1) (Nat.succ_lt_succ hi)⟩

theorem IsRun.piecesFrom_eq {run rest : Text} (h : IsRun run rest) :
    piecesFrom 0 (run ++ rest) = .plain run :: piecesFrom 0 rest := by
  induction run with
  | nil => exact absurd rfl h.ne_nil
  | cons c run ih =>
    have hnone : Token.tagBody? (c :: (run ++ rest)) = none :=
      Token.tagBody?_eq_none_iff.mpr (h.noTag 0 (Nat.succ_pos _))
    rw [List.cons_append, piecesFrom, hnone]
    cases run with
    | nil => exact prepend_of_startsTag c h.ends
    | cons d run =>
      rw [ih h.tail]
      rfl

theorem IsRun.tokenize_eq {run rest : Text} (h : IsRun run rest) :
    tokenize (run ++ rest) = .text run :: tokenize rest := by
  rw [tokenize, h.piecesFrom_eq]
  rfl

theorem tokenize_plain {s rest : Text} (hne : s ≠ []) (h : '{' ∉ s) (hrest : StartsTag rest) :
    tokenize (s ++ rest) = .text s :: tokenize rest := (IsRun.of_noBrace hne h hrest).tokenize_eq

theorem exists_run {c : Char} {s : Text} (h : ¬BeginsTag (c :: s)) :
    ∃ run rest, c :: s = run ++ rest ∧ IsRun run rest := by
  induction s generalizing c with
  | nil =>
    refine ⟨[c], [], rfl, List.cons_ne_nil _ _, .inl rfl, fun i hi => ?_⟩
    rw [Nat.lt_one_iff.mp hi]
    exact h
  | cons d s ih =>
    by_cases hd : BeginsTag (d :: s)
    · refine ⟨[c], d :: s, rfl, List.cons_ne_nil _ _, .inr hd, fun i hi => ?_⟩
      rw [Nat.lt_one_iff.mp hi]
      exact h
    · obtain ⟨run, rest, heq, hrun⟩ := ih hd
      refine ⟨c :: run, rest, congrArg (c :: ·) heq, List.cons_ne_nil _ _, hrun.ends, ?_⟩
      intro i hi
      cases i with
      | zero =>
        rw [List.drop_zero, List.cons_append, ← heq]
        exact h
      | succ i => exact hrun.noTag i (Nat.lt_of_succ_lt_succ hi)

/-- Induction on a template from the left, by complete tags and runs between them. -/
@[elab_as_elim]
theorem tokenInduction {motive : Text → Prop} (nil : motive [])
    (tag : ∀ body rest, '}' ∉ body → motive rest → motive (Token.tagRaw body ++ rest))
    (run : ∀ run rest, IsRun run rest → motive rest → motive (run ++ rest))
    (t : Text) : motive t := by
  induction hn : t.length using Nat.strongRecOn generalizing t with
  | ind n ih =>
    cases t with
    | nil => exact nil
    | cons c s =>
      by_cases htag : BeginsTag (c :: s)
      · obtain ⟨body, rest, hbrace, heq⟩ := htag
        rw [heq] at hn ⊢
        refine tag body rest hbrace (ih rest.length ?_ rest rfl)
        rw [← hn, List.length_append, Token.tagRaw, List.cons_append, List.length_cons]
        omega
      · obtain ⟨r, rest, heq, hrun⟩ := exists_run htag
        rw [heq] at hn ⊢
        refine run r rest hrun (ih rest.length ?_ rest rfl)
        have hpos := List.length_pos_iff.mpr hrun.ne_nil
        rw [← hn, List.length_append]
        omega

theorem StartsTag.head?_eq {rest : Text} (h : StartsTag rest) {c : Char}
    (hc : rest.head? = some c) : c = '{' := by
  obtain rfl | ⟨body, u, -, rfl⟩ := h
  · cases hc
  · exact (Option.some.inj hc).symm

end LitNote.Template
