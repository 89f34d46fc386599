import LitNote.Proofs.Text.Padding
import LitNote.Template.Token

/-!
The tokens of a template, piece by piece: a complete tag gives the token of its body.
-/

namespace LitNote.Template

namespace Token

theorem tagBody?_tagRaw {body : Text} (h : '}' ∉ body) (rest : Text) :
    tagBody? (tagRaw body ++ rest) = some body := by
  have hne : ∀ c ∈ body, (c != '}') = true := fun c hc =>
    bne_iff_ne.mpr fun hc' => h (hc' ▸ hc)
  have hraw : tagRaw body ++ rest = '{' :: '{' :: (body ++ '}' :: '}' :: rest) := by
    simp only [tagRaw, List.cons_append, List.append_assoc, List.nil_append]
  have htake : (body ++ '}' :: '}' :: rest).takeWhile (· != '}') = body := by
    rw [List.takeWhile_append_of_pos hne, List.takeWhile_cons_of_neg (by decide), List.append_nil]
  have hdrop : (body ++ '}' :: '}' :: rest).dropWhile (· != '}') = '}' :: '}' :: rest := by
    rw [List.dropWhile_append_of_pos hne, List.dropWhile_cons_of_neg (by decide)]
  rw [hraw, tagBody?, hdrop, htake]
  rfl

theorem tagBody?_of_ne {c : Char} (h : c ≠ '{') (rest : Text) : tagBody? (c :: rest) = none := by
  rw [tagBody?]
  intro rest' heq
  cases heq
  exact h rfl

end Token

theorem piecesFrom_skip (passed rest : Text) :
    piecesFrom passed.length (passed ++ rest) = piecesFrom 0 rest := by
  induction passed with
  | nil => rfl
  | cons c passed ih => exact ih

theorem piecesFrom_tag {body : Text} (h : '}' ∉ body) (rest : Text) :
    piecesFrom 0 (Token.tagRaw body ++ rest) = .tag body :: piecesFrom 0 rest := by
  have hbody := Token.tagBody?_tagRaw h rest
  have hlen : body.length + 3 = ('{' :: body ++ ['}', '}']).length := by simp
  have hraw : Token.tagRaw body ++ rest = '{' :: (('{' :: body ++ ['}', '}']) ++ rest) := rfl
  rw [hraw] at hbody ⊢
  rw [piecesFrom, hbody]
  show Piece.tag body :: piecesFrom (body.length + 3) _ = _
  rw [hlen, piecesFrom_skip]

def StartsTag (rest : Text) : Prop :=
  rest = [] ∨ ∃ body u, '}' ∉ body ∧ rest = Token.tagRaw body ++ u

theorem prepend_of_startsTag (c : Char) {rest : Text} (h : StartsTag rest) :
    Piece.prepend c (piecesFrom 0 rest) = .plain [c] :: piecesFrom 0 rest := by
  obtain rfl | ⟨body, u, hbody, rfl⟩ := h
  · rfl
  · rw [piecesFrom_tag hbody, Piece.prepend]
    intro run pieces heq
    cases heq

theorem tokenize_tag {body : Text} (h : '}' ∉ body) (rest : Text) :
    tokenize (Token.tagRaw body ++ rest) = .ofTag body (Token.tagRaw body) :: tokenize rest := by
  rw [tokenize, piecesFrom_tag h]
  rfl

end LitNote.Template
