import PageRecords.Html.Page
import PageRecords.Proofs.Dom.Shape
import PageRecords.Proofs.Html.Spelling

/-!
# Text in the body of a page

After the start tag of the body every character of text is settled by one rule and goes into one
node, whether it is a blank or not. So the page read from what spells a text is known in full
(`run_spelled`), and the text of such markup is the text spelled (`plainText_spelled`).
-/

namespace PageRecords.Html

/-- The nodes of a page with nothing but a body, and what the body holds. -/
def pageCells (inBody : Array Handle) (more : Arena) : Arena :=
  #[⟨.root .document, none, #[1]⟩,
    ⟨.element (html "html") [] none, some 0, #[2, 3]⟩,
    ⟨.element (html "head") [] none, some 1, #[]⟩,
    ⟨.element (html "body") [] none, some 1, inBody⟩] ++ more

/-- The start tag of the body was read, and nothing that is not text since. -/
def bodyOpen (arena : Arena) : Builder where
  arena
  mode := .inBody
  resume := .inBody
  templateModes := []
  open_ := [3, 1]
  formatting := []
  head := some 2
  form := none
  framesetOk := false
  skipLineBreak := false
  fostering := false
  old := true
  pending := []
  reading := none

def emptyBody : Builder := bodyOpen (pageCells #[] #[])

def filledBody (text : String) : Builder :=
  bodyOpen (pageCells #[4] #[⟨.leaf (.text text), some 3, #[]⟩])

/-- The page after some text of the body. -/
def bodyWith : List Char → Builder
  | [] => emptyBody
  | text => filledBody (String.ofList text)

theorem bodyWith_cons (c : Char) (text : List Char) :
    bodyWith (c :: text) = filledBody (String.ofList (c :: text)) := rfl

def readingBody (text : List Char) : Reading := ⟨bodyWith text, .data, "body"⟩

-- --------------------------------------------------------------------
-- Tokens
-- --------------------------------------------------------------------

variable {c : Char} {text cs : List Char}

theorem take_body : Reading.take ⟨.start, .data, ""⟩ (.startTag ⟨"body", [], false⟩) =
    readingBody [] := rfl

theorem char_emptyBody (c : Char) : emptyBody.char c = filledBody c.toString := rfl

theorem char_filledBody (s : String) (c : Char) :
    (filledBody s).char c = filledBody (s ++ c.toString) := rfl

/-- A character begins the text or lengthens it. -/
theorem char_bodyWith (text : List Char) (c : Char) :
    (bodyWith text).char c = bodyWith (text ++ [c]) := by
  cases text with
  | nil => exact char_emptyBody c
  | cons d text =>
    rw [bodyWith_cons, char_filledBody, List.cons_append, bodyWith_cons, ← List.cons_append,
      String.ofList_append]
    rfl

/-- A character of the body is settled at once. -/
theorem settle_char (hnull : c ≠ '\x00') (fuel : Nat) :
    (bodyWith text).settle (.char c) (fuel + 1) = bodyWith (text ++ [c]) := by
  have hforeign : (bodyWith text).readsAsForeign (.char c) = false := by cases text <;> rfl
  have hmode : (bodyWith text).byMode (.char c) = (bodyWith text).inBody (.char c) := by
    cases text <;> rfl
  have hinBody : (bodyWith text).inBody (.char c) = ((bodyWith text).char c, none) := by
    rw [Builder.inBody, if_neg hnull]
    -- What is no blank rules framesets out, but the start tag of the body did so already.
    cases text <;> cases isBlank c <;> rfl
  rw [Builder.settle, hforeign, hmode, hinBody, char_bodyWith]
  rfl

theorem take_char (hnull : c ≠ '\x00') :
    (readingBody text).take (.char c) = readingBody (text ++ [c]) := by
  have htake : (bodyWith text).take (.char c) = bodyWith (text ++ [c]) := by
    have hsettle : (bodyWith text).settle (.char c) (8 * (bodyWith text).open_.length + 32) =
        bodyWith (text ++ [c]) := settle_char hnull _
    have hskip : { bodyWith text with skipLineBreak := false } = bodyWith text := by
      cases text <;> rfl
    have hnext : (bodyWith text).skipLineBreak = false := by cases text <;> rfl
    unfold Builder.take
    rw [hskip, hnext]
    -- Line breaks stand out only where one is to be skipped.
    split
    · exact hsettle
    · next heq => cases heq
    · exact hsettle
  cases text <;> simp only [readingBody, Reading.take, htake] <;> rfl

theorem take_stop : (readingBody text).take .stop = readingBody text := by
  cases text <;> rfl

-- --------------------------------------------------------------------
-- Reading
-- --------------------------------------------------------------------

variable {spell : Char → List Char} {w : List Char}

theorem run_step (r : Reading) {rest : List Char} {tokens : List Token} {mode : TextMode}
    (hcs : cs ≠ []) (hlex : lex ⟨r.lastStarted, !r.builder.open_.isEmpty &&
      r.builder.currentTag.space != .html⟩ r.mode cs = ⟨tokens, rest, mode⟩) (fuel : Nat) :
    r.run cs (fuel + 1) = (tokens.foldl Reading.take { r with mode := mode }).run rest fuel := by
  have hsome : cs.isEmpty = false := List.isEmpty_eq_false_iff.mpr hcs
  rw [Reading.run]
  simp only [hlex, hsome]
  rfl

theorem run_stop (fuel : Nat) : (readingBody text).run [] (fuel + 1) = readingBody text :=
  take_stop

/-- One step reads what spells a character. -/
theorem run_char (hspell : Spells c w) (hnull : c ≠ '\x00') (rest : List Char) (fuel : Nat) :
    (readingBody text).run (w ++ rest) (fuel + 1) =
      (readingBody (text ++ [c])).run rest fuel := by
  have hforeign : (!(bodyWith text).open_.isEmpty && (bodyWith text).currentTag.space != .html) =
      false := by
    cases text <;> rfl
  have hlex := hspell "body" rest
  rw [← hforeign] at hlex
  have hsome : w ++ rest ≠ [] := List.append_ne_nil_of_left_ne_nil hspell.ne_nil rest
  have hstep := run_step (readingBody text) hsome hlex fuel
  rw [hstep, ← take_char hnull]
  rfl

/-- Reading what spells a text puts the text into the body. -/
theorem run_spelled (hspell : ∀ c ∈ cs, Spells c (spell c)) (hnull : ∀ c ∈ cs, c ≠ '\x00')
    (fuel : Nat) (hfuel : cs.length < fuel) :
    (readingBody text).run (cs.flatMap spell) fuel = readingBody (text ++ cs) := by
  induction cs generalizing text fuel with
  | nil =>
    cases fuel with
    | zero => cases hfuel
    | succ fuel =>
      rw [List.flatMap_nil, List.append_nil]
      exact run_stop fuel
  | cons c cs ih =>
    cases fuel with
    | zero => cases hfuel
    | succ fuel =>
      rw [List.flatMap_cons, run_char (hspell c List.mem_cons_self) (hnull c List.mem_cons_self),
        ih (fun d hd => hspell d (List.mem_cons_of_mem _ hd))
          (fun d hd => hnull d (List.mem_cons_of_mem _ hd)) fuel (Nat.lt_of_succ_lt_succ hfuel),
        List.append_assoc]
      rfl

-- --------------------------------------------------------------------
-- Pages
-- --------------------------------------------------------------------

theorem plainLines_of_no_return (h : ∀ c ∈ cs, c ≠ '\r') : plainLines cs = cs := by
  fun_induction plainLines cs with
  | case1 => simp at h
  | case2 => simp at h
  | case3 c rest _ _ ih => rw [ih fun d hd => h d (List.mem_cons_of_mem _ hd)]
  | case4 => rfl

theorem lex_body (rest : List Char) :
    lex ⟨"", false⟩ .data ("<body>".toList ++ rest) =
      ⟨[.startTag ⟨"body", [], false⟩], rest, .data⟩ := rfl

theorem run_body (rest : List Char) (fuel : Nat) :
    Reading.run ⟨.start, .data, ""⟩ ("<body>".toList ++ rest) (fuel + 1) =
      (readingBody []).run rest fuel := by
  have hsome : "<body>".toList ++ rest ≠ [] := List.cons_ne_nil _ _
  have hstep := run_step ⟨.start, .data, ""⟩ hsome (lex_body rest) fuel
  rw [hstep, ← take_body]
  rfl

theorem node_filledBody (s : String) : (filledBody s).arena.node Builder.document =
    .root 0 .document
      [.element 1 (html "html") [] []
        [.element 2 (html "head") [] [] [],
         .element 3 (html "body") [] [] [.leaf 4 (.text s)]]] := rfl

theorem text_bodyWith (text : List Char) :
    ((bodyWith text).arena.node Builder.document).text = String.ofList text := by
  cases text with
  | nil => rfl
  | cons c text =>
    rw [bodyWith_cons, node_filledBody]
    simp [Dom.Node.text, Dom.Node.listText]

theorem length_le_spelled (hspell : ∀ c ∈ cs, Spells c (spell c)) :
    cs.length ≤ (cs.flatMap spell).length := by
  induction cs with
  | nil => exact Nat.le_refl _
  | cons c cs ih =>
    have hc := List.length_pos_of_ne_nil (hspell c List.mem_cons_self).ne_nil
    have hcs := ih fun d hd => hspell d (List.mem_cons_of_mem _ hd)
    rw [List.flatMap_cons, List.length_append, List.length_cons]
    omega

/-- Markup that spells a text has that text. -/
theorem plainText_spelled (hspell : ∀ c ∈ cs, Spells c (spell c))
    (hnull : ∀ c ∈ cs, c ≠ '\x00') (hreturn : ∀ c ∈ cs.flatMap spell, c ≠ '\r') :
    plainText (String.ofList (cs.flatMap spell)) = String.ofList cs := by
  have hpage : pageText ("<body>" ++ String.ofList (cs.flatMap spell)) =
      "<body>".toList ++ cs.flatMap spell := by
    have htag : "<body>".toList.all (· != '\r') = true := rfl
    have hall : ∀ c ∈ "<body>".toList ++ cs.flatMap spell, c ≠ '\r' := by
      intro c hc
      rcases List.mem_append.mp hc with hc | hc
      · exact bne_iff_ne.mp (List.all_eq_true.mp htag c hc)
      · exact hreturn c hc
    have hplain := plainLines_of_no_return hall
    have hchars : ("<body>" ++ String.ofList (cs.flatMap spell)).toList =
        "<body>".toList ++ cs.flatMap spell := by
      rw [String.toList_append]
      exact congrArg _ String.toList_ofList
    rw [pageText, hchars]
    exact hplain
  have hlength : cs.length < ("<body>".toList ++ cs.flatMap spell).length := by
    have hle := length_le_spelled hspell
    have htag : "<body>".toList.length = 6 := rfl
    rw [List.length_append]
    omega
  have hrun := (run_body (cs.flatMap spell) _).trans (run_spelled hspell hnull _ hlength)
  rw [plainText, readPage, hpage]
  show Dom.Node.text (Dom.Node.renumber 0 _).1 = _
  rw [hrun, ← Dom.Node.text_shape, Dom.Node.shape_renumber, Dom.Node.text_shape]
  exact text_bodyWith cs

end PageRecords.Html
