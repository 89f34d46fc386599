import LitNote.Citation.Key
import LitNote.Proofs.Failure
import LitNote.Proofs.Template.Composition

/-!
The variables of key templates.  Main statement: the title words that are derived from a citation
are those that formatters make of its title, as long as that is a text.
-/

namespace LitNote.Key

open Template (Node IsFormatter WellFormed render renderVariable parse print)

variable {r vars : Record} {author year : Text}

def titleOf (r : Record) : Value := (r.field "title").orElse (.text [])

def ownTitle (r : Record) : Value := (r.field "title").orElse (r.field "Title")

structure HoldDerived (r : Record) (author year : Text) (vars : Record) : Prop where
  author : vars.get? "author".toList = some (.text author)
  year : vars.get? "year".toList = some (.text year)
  title : vars.get? "title".toList = some (titleOf r)
  shortTitle : vars.get? "shorttitle".toList = some (.text (Title.words (ownTitle r) 3))

theorem exists_entries (r : Record) : ∃ authors, Author.entries (.record r) = .ok authors := by
  rw [Author.entries]
  simp only [Value.fields, Value.opened, Failure.ok_bind]
  split <;> exact ⟨_, rfl⟩

theorem exists_templateVars (h : Author.part (.record r) = .ok author)
    (hyear : Year.part (.record r) = .ok year) :
    ∃ vars, templateVars (.record r) = .ok vars ∧ HoldDerived r author year vars := by
  obtain ⟨authors, hauthors⟩ := exists_entries r
  let fields := [("author", .text author), ("year", .text year), ("title", titleOf r),
    ("shorttitle", .text (Title.words (ownTitle r) 3)), ("authors", .list authors)]
  have hnames : (["author", "year", "title", "shorttitle", "authors"].map
      String.toList).Nodup := by decide
  have hget (key : String) (v : Value) (hmem : (key, v) ∈ fields) :
      (r.update (Record.ofFields fields)).get? key.toList = some v :=
    Record.get?_update_of_mem r (by exact hnames) hmem
  refine ⟨r.update (Record.ofFields fields), ?_, ?_⟩
  · rw [templateVars, h, hyear, hauthors]
    rfl
  · exact ⟨hget _ _ (.head _), hget _ _ (.tail _ (.head _)),
      hget _ _ (.tail _ (.tail _ (.head _))), hget _ _ (.tail _ (.tail _ (.tail _ (.head _))))⟩

theorem renderVariable_of_vars {key : Text} {v : Value} (fs : List Text)
    (hkey : key ≠ "rand".toList) (hget : vars.get? key = some v) :
    renderVariable key fs [vars] = Template.renderValue key fs v :=
  Template.renderVariable_of_get? fs hkey ((Template.get?_singleton vars key).trans hget)

theorem renderVariable_text {key s : Text} (hkey : key ≠ "rand".toList)
    (hget : vars.get? key = some (.text s)) : renderVariable key [] [vars] = pure s := by
  rw [renderVariable_of_vars [] hkey hget]
  rfl

def titleFormatters : List (String × Int) := [("shorttitle", 3), ("titleword", 1)]

def formattedWords (v : Value) (count : Int) : Text :=
  (v.plain.map (Title.wordsOf · count)).toOption.getD []

def titleTemplate (formatter : String) : Text :=
  Template.Token.tagRaw ("title|".toList ++ formatter.toList)

theorem applyChain_title {formatter : String} {count : Int}
    (h : (formatter, count) ∈ titleFormatters) (v : Value) :
    Template.Formatter.applyChain v [formatter.toList] =
      Drawing.failing (v.plain.map (Title.wordsOf · count)) := by
  simp only [titleFormatters, List.mem_cons, List.not_mem_nil, or_false, Prod.mk.injEq] at h
  rcases h with ⟨rfl, rfl⟩ | ⟨rfl, rfl⟩
  · exact Template.applyChain_map (f := .shortTitle) (by decide) (by decide) (by decide)
      fun _ => rfl
  · exact Template.applyChain_map (f := .titleWord) (by decide) (by decide) (by decide)
      fun _ => rfl

theorem parse_titleTemplate {formatter : String} {count : Int}
    (h : (formatter, count) ∈ titleFormatters) :
    parse (titleTemplate formatter) = .ok [.var "title".toList [formatter.toList]] := by
  have hformatters : ∀ f ∈ titleFormatters, IsFormatter f.1.toList := by decide
  have hw : WellFormed [.var "title".toList [formatter.toList]] :=
    .var (by decide) (List.forall_mem_singleton.mpr (hformatters _ h)) .nil
  have hprint : print [.var "title".toList [formatter.toList]] = titleTemplate formatter := by
    simp [print, Node.print, titleTemplate]
  rw [← hprint]
  exact Template.parse_print hw (Nat.zero_le _)

theorem titleOf_ne (r : Record) : titleOf r ≠ .null ∧ titleOf r ≠ .absent := by
  rw [titleOf, Value.orElse]
  split
  · next hset =>
    constructor
    · intro hnull
      rw [hnull] at hset
      cases hset
    · intro habsent
      rw [habsent] at hset
      cases hset
  · exact ⟨nofun, nofun⟩

theorem render_titleTemplate {formatter : String} {count : Int}
    (h : (formatter, count) ∈ titleFormatters)
    (hget : vars.get? "title".toList = some (titleOf r)) :
    render (titleTemplate formatter) (.record vars) = pure (formattedWords (titleOf r) count) := by
  obtain ⟨hnull, habsent⟩ := titleOf_ne r
  refine Template.render_of_failing (parse_titleTemplate h) ?_
  rw [Template.renderNodes_singleton, Template.renderNode,
    renderVariable_of_vars _ (by decide) hget,
    Template.renderValue_of_formatters (List.cons_ne_nil _ _) hnull habsent, applyChain_title h]

theorem render_derivedTitle {short : Text}
    (hget : vars.get? "shorttitle".toList = some (.text short)) :
    render (Template.Token.tagRaw "shorttitle".toList) (.record vars) = pure short := by
  refine Template.render_of_parse (Template.parse_tag (by decide)) ?_
  rw [Template.renderNodes_singleton, Template.renderNode, renderVariable_text (by decide) hget]

theorem formattedWords_text {formatter : String} {count : Int}
    (h : (formatter, count) ∈ titleFormatters) (s : Text) :
    formattedWords (.text s) count = Title.words (.text s) count := by
  rw [Title.words]
  split
  · next hempty =>
    have hnone : ∀ f ∈ titleFormatters, formattedWords (.text []) f.2 = [] := by decide
    rw [List.isEmpty_iff.mp hempty]
    exact hnone (formatter, count) h
  · rfl

/-- The other name of the title holds none, or none is needed. -/
def IsOnlyTitle (r : Record) : Prop :=
  (r.field "title").isSet = true ∨ ∀ s, r.field "Title" = .text s → s = []

theorem words_of_not_text {v : Value} (h : ∀ s, v = .text s → s = []) (count : Int) :
    Title.words v count = [] := by
  cases v with
  | text s =>
    rw [h s rfl]
    rfl
  | _ => rfl

theorem words_ownTitle {formatter : String} {count : Int}
    (h : (formatter, count) ∈ titleFormatters) (honly : IsOnlyTitle r)
    (htext : (r.field "title").isSet = true → ∃ s, r.field "title" = .text s) :
    Title.words (ownTitle r) count = formattedWords (titleOf r) count := by
  rw [ownTitle, titleOf, Value.orElse, Value.orElse]
  split
  · next hset =>
    obtain ⟨s, hs⟩ := htext hset
    rw [hs, formattedWords_text h]
  · next hset =>
    rw [words_of_not_text (honly.resolve_left hset), formattedWords_text h]
    rfl

theorem titlePart_eq (r : Record) (count : Int) :
    Title.part (.record r) count = .ok (Title.words (ownTitle r) count) := rfl

/-- The derived variable renders the title words of the citation, and formatters render the words
of the title in the form of a text.  The words are the same if the title is a text or is not set; of
a title of another kind there are none but those of the formatters. -/
theorem render_titleWords (h : Author.part (.record r) = .ok author)
    (hyear : Year.part (.record r) = .ok year) :
    ∃ vars short, templateVars (.record r) = .ok vars ∧ Title.part (.record r) 3 = .ok short ∧
      render (Template.Token.tagRaw "shorttitle".toList) (.record vars) = pure short ∧
      (IsOnlyTitle r → ∀ f ∈ titleFormatters,
        render (titleTemplate f.1) (.record vars) = pure (formattedWords (titleOf r) f.2) ∧
        (((r.field "title").isSet = true → ∃ s, r.field "title" = .text s) →
          Title.part (.record r) f.2 = .ok (formattedWords (titleOf r) f.2)) ∧
        ((r.field "title").isSet = true → (∀ s, r.field "title" ≠ .text s) →
          Title.part (.record r) f.2 = .ok [])) := by
  obtain ⟨vars, hvars, hget⟩ := exists_templateVars h hyear
  refine ⟨vars, _, hvars, titlePart_eq r 3, render_derivedTitle hget.shortTitle, ?_⟩
  intro honly f hf
  refine ⟨render_titleTemplate hf hget.title, ?_, ?_⟩
  · intro htext
    rw [titlePart_eq, words_ownTitle hf honly htext]
  · intro hset hother
    have hown : ownTitle r = r.field "title" := if_pos hset
    rw [titlePart_eq, hown, words_of_not_text fun s hs => absurd hs (hother s)]

def titled (name : String) (title : Value) : Record := Record.ofFields [(name, title)]

theorem render_titleWords_nets :
    ∃ vars, templateVars (.record (titled "title" (.text "The <i>deep</i> nets".toList))) =
        .ok vars ∧
      render (Template.Token.tagRaw "shorttitle".toList) (.record vars) =
        pure "deepnets".toList ∧
      render (titleTemplate "shorttitle") (.record vars) = pure "deepnets".toList ∧
      render (titleTemplate "titleword") (.record vars) = pure "deep".toList := by
  have hauthor : Author.part (.record (titled "title" (.text "The <i>deep</i> nets".toList))) =
      .ok Author.unknown := by decide
  have hyear : Year.part (.record (titled "title" (.text "The <i>deep</i> nets".toList))) =
      .ok [] := by decide
  have hthree : Title.part (.record (titled "title" (.text "The <i>deep</i> nets".toList))) 3 =
      .ok "deepnets".toList := by decide +kernel
  have hone : Title.part (.record (titled "title" (.text "The <i>deep</i> nets".toList))) 1 =
      .ok "deep".toList := by decide +kernel
  obtain ⟨vars, short, hvars, hpart, hshort, hformatted⟩ := render_titleWords hauthor hyear
  obtain ⟨hshortTitle, hsameThree, -⟩ := hformatted (.inl rfl) ("shorttitle", 3) (by decide)
  obtain ⟨htitleWord, hsameOne, -⟩ := hformatted (.inl rfl) ("titleword", 1) (by decide)
  have hsameThree := hthree.symm.trans (hsameThree fun _ => ⟨_, rfl⟩)
  have hsameOne := hone.symm.trans (hsameOne fun _ => ⟨_, rfl⟩)
  rw [← Except.ok.inj hsameThree] at hshortTitle
  rw [← Except.ok.inj hsameOne] at htitleWord
  rw [Except.ok.inj (hpart.symm.trans hthree)] at hshort
  exact ⟨vars, hvars, hshort, hshortTitle, htitleWord⟩

theorem shorttitle_differs :
    (∃ vars, templateVars (.record (titled "title" (.int 2024))) = .ok vars ∧
      render (Template.Token.tagRaw "shorttitle".toList) (.record vars) = pure [] ∧
      render (titleTemplate "shorttitle") (.record vars) = pure "2024".toList ∧
      Title.part (.record (titled "title" (.int 2024))) 1 = .ok [] ∧
      render (titleTemplate "titleword") (.record vars) = pure "2024".toList) ∧
    ∃ vars, templateVars (.record (titled "Title" (.text "Nets".toList))) = .ok vars ∧
      render (Template.Token.tagRaw "shorttitle".toList) (.record vars) = pure "nets".toList ∧
      render (titleTemplate "shorttitle") (.record vars) = pure [] := by
  constructor
  · have hauthor : Author.part (.record (titled "title" (.int 2024))) = .ok Author.unknown := by
      decide
    have hnoyear : Year.part (.record (titled "title" (.int 2024))) = .ok [] := by decide
    obtain ⟨vars, hvars, hget⟩ := exists_templateVars hauthor hnoyear
    have hyear : ∀ f ∈ titleFormatters,
        formattedWords (titleOf (titled "title" (.int 2024))) f.2 = "2024".toList := by
      decide +kernel
    have hthree := render_titleTemplate (show ("shorttitle", 3) ∈ _ by decide) hget.title
    have hone := render_titleTemplate (show ("titleword", 1) ∈ _ by decide) hget.title
    rw [hyear ("shorttitle", 3) (by decide)] at hthree
    rw [hyear ("titleword", 1) (by decide)] at hone
    exact ⟨vars, hvars, render_derivedTitle hget.shortTitle, hthree, rfl, hone⟩
  · have hauthor : Author.part (.record (titled "Title" (.text "Nets".toList))) =
        .ok Author.unknown := by decide
    have hnoyear : Year.part (.record (titled "Title" (.text "Nets".toList))) = .ok [] := by decide
    obtain ⟨vars, hvars, hget⟩ := exists_templateVars hauthor hnoyear
    have hother : formattedWords (titleOf (titled "Title" (.text "Nets".toList))) 3 = [] ∧
        Title.words (ownTitle (titled "Title" (.text "Nets".toList))) 3 = "nets".toList := by
      decide +kernel
    have hthree := render_titleTemplate (show ("shorttitle", 3) ∈ _ by decide) hget.title
    have hshort := render_derivedTitle hget.shortTitle
    rw [hother.1] at hthree
    rw [hother.2] at hshort
    exact ⟨vars, hvars, hshort, hthree⟩

end LitNote.Key
