import Automation.Proofs.Mail.Delivery

/-!
# What the HTML part of a message shows

A reader of markup finds the breaks, and decodes the references from left to right in one pass
(`Mail.decode`). From the HTML part of a message it gets back the body as it was written, whatever
the body holds: each of the two steps by which the part is made is undone by one step of the reader,
the breaks because no other angle bracket is left and the references because every ampersand begins
one.
-/

set_option autoImplicit false

namespace Automation

namespace Mail

/-! ## Reading markup -/

/-- A text with every break as a line feed. -/
def unbroken : List Char → List Char
  | '<' :: 'b' :: 'r' :: '>' :: rest => '\n' :: unbroken rest
  | c :: rest => c :: unbroken rest
  | [] => []

/-- The number that digits write. -/
def numeral? (base : Nat) (digit? : Char → Option Nat) (digits : List Char) : Option Nat :=
  if digits.isEmpty then none
  else digits.foldlM (fun n c => (digit? c).map (base * n + ·)) 0

/-- The characters that have a name in all markup. -/
def named : List (String × Char) :=
  [("amp", '&'), ("lt", '<'), ("gt", '>'), ("quot", '"'), ("apos", '\'')]

/-- The character that a reference means, by a number or by a name. -/
def meaning? : List Char → Option Char
  | '#' :: 'x' :: digits | '#' :: 'X' :: digits =>
    (numeral? 16 Text.hexDigit? digits).map Char.ofNat
  | '#' :: digits => (numeral? 10 Text.asciiDigit? digits).map Char.ofNat
  | name => named.lookup (String.ofList name)

/-- One pass over a text from left to right that decodes the references. After an ampersand, `word`
holds what stands since then, the last character first. What turns out to be no reference is left as
it is. -/
def decodeFrom : (word : Option (List Char)) → List Char → List Char
  | none, [] => []
  | none, c :: rest => if c = '&' then decodeFrom (some []) rest else c :: decodeFrom none rest
  | some word, [] => '&' :: word.reverse
  | some word, c :: rest =>
    if c = ';' then
      match meaning? word.reverse with
      | some meant => meant :: decodeFrom none rest
      | none => '&' :: word.reverse ++ ';' :: decodeFrom none rest
    else if c = '&' then '&' :: word.reverse ++ decodeFrom (some []) rest
    else decodeFrom (some (c :: word)) rest

/-- A text with every reference decoded. -/
def decode (cs : List Char) : List Char := decodeFrom none cs

/-- What stands between angle brackets, tag by tag. Inside a tag, `tag` holds what stands since its
beginning, the last character first. -/
def tagsFrom : (tag : Option (List Char)) → List Char → List String
  | _, [] => []
  | none, c :: rest => if c = '<' then tagsFrom (some []) rest else tagsFrom none rest
  | some tag, c :: rest =>
    if c = '>' then String.ofList tag.reverse :: tagsFrom none rest
    else tagsFrom (some (c :: tag)) rest

/-- The tags of a text. -/
def tags (cs : List Char) : List String := tagsFrom none cs

/-- A character that no markup is made of. -/
def IsPlain (c : Char) : Prop := c ≠ '<' ∧ c ≠ '>' ∧ c ≠ '"' ∧ c ≠ '\''

instance : DecidablePred IsPlain := fun _ => inferInstanceAs (Decidable (_ ∧ _))

/-- What stands in a paragraph shows a body and nothing else: the only tags are breaks, one for each
line feed of the body, and whoever reads the breaks and then the references reads the body. -/
structure Shows (inner : List Char) (body : String) : Prop where
  opening : ∀ front rest, inner = front ++ '<' :: rest → "br>".toList <+: rest
  closing : ∀ front rest, inner = front ++ '>' :: rest → "<br".toList <:+ front
  unfed : '\n' ∉ inner
  unquoted : '"' ∉ inner ∧ '\'' ∉ inner
  tags_eq : tags ("<p>".toList ++ inner ++ "</p>".toList) =
    "p" :: List.replicate (body.toList.count '\n') "br" ++ ["/p"]
  decode_eq : decode (unbroken inner) = body.toList

variable {c : Char} {cs front rest : List Char}

/-! ## References -/

/-- The characters that a reference stands for, each with its reference. -/
def references : List (Char × String) :=
  [('&', "&amp;"), ('<', "&lt;"), ('>', "&gt;"), ('"', "&quot;"), ('\'', "&#x27;")]

/-- A character is written as its reference, or as it is if it has none. -/
theorem escapedChar_cases (c : Char) :
    (∃ r ∈ references, r.1 = c ∧ escapedChar c = r.2.toList) ∨
      (∀ r ∈ references, r.1 ≠ c) ∧ escapedChar c = [c] := by
  by_cases h : ∃ r ∈ references, r.1 = c
  · obtain ⟨r, hr, rfl⟩ := h
    have hwritten : ∀ r ∈ references, escapedChar r.1 = r.2.toList := by decide
    exact Or.inl ⟨r, hr, rfl, hwritten r hr⟩
  · have hnone : ∀ r ∈ references, r.1 ≠ c := fun r hr heq => h ⟨r, hr, heq⟩
    obtain ⟨hamp, hlt, hgt, hquote, hapostrophe⟩ :
        '&' ≠ c ∧ '<' ≠ c ∧ '>' ≠ c ∧ '"' ≠ c ∧ '\'' ≠ c := by
      simpa [references] using hnone
    refine Or.inr ⟨hnone, ?_⟩
    simp [escapedChar, hamp.symm, hlt.symm, hgt.symm, hquote.symm, hapostrophe.symm]

theorem isPlain_of_mem_escaped (h : c ∈ escaped cs) : IsPlain c := by
  obtain ⟨b, -, hc⟩ := List.mem_flatMap.1 h
  rcases escapedChar_cases b with ⟨r, hr, -, hwritten⟩ | ⟨hnone, hwritten⟩
  · have hreferences : ∀ r ∈ references, (r.2.toList.all fun d => IsPlain d) = true := by decide
    have hplain := List.all_eq_true.1 (hreferences r hr) c (hwritten ▸ hc)
    exact of_decide_eq_true hplain
  · rw [hwritten] at hc
    obtain rfl := List.mem_singleton.1 hc
    exact ⟨(hnone ('<', "&lt;") (by decide)).symm, (hnone ('>', "&gt;") (by decide)).symm,
      (hnone ('"', "&quot;") (by decide)).symm, (hnone ('\'', "&#x27;") (by decide)).symm⟩

/-- A line feed is left as it is, and nothing else becomes one. -/
theorem count_escapedChar (c : Char) : (escapedChar c).count '\n' = [c].count '\n' := by
  rcases escapedChar_cases c with ⟨r, hr, rfl, hwritten⟩ | ⟨-, hwritten⟩
  · have hreferences : ∀ r ∈ references, r.2.toList.count '\n' = [r.1].count '\n' := by decide
    rw [hwritten, hreferences r hr]
  · rw [hwritten]

theorem count_escaped (cs : List Char) : (escaped cs).count '\n' = cs.count '\n' := by
  induction cs with
  | nil => rfl
  | cons c cs ih =>
    calc (escaped (c :: cs)).count '\n'
        = (escapedChar c).count '\n' + (escaped cs).count '\n' := by
          rw [escaped, List.flatMap_cons, List.count_append, escaped]
      _ = [c].count '\n' + cs.count '\n' := by rw [count_escapedChar, ih]
      _ = (c :: cs).count '\n' := by rw [← List.count_append, List.singleton_append]

/-- A text with every occurrence of a character replaced. -/
def replaced (cs : List Char) (r : Char × String) : List Char :=
  cs.flatMap fun c => if c = r.1 then r.2.toList else [c]

/-- Replacements of a whole text are replacements of its parts. -/
theorem foldl_replaced (rs : List (Char × String)) (f : Char → List Char) (cs : List Char) :
    rs.foldl replaced (cs.flatMap f) = cs.flatMap fun c => rs.foldl replaced (f c) := by
  induction rs generalizing f with
  | nil => rfl
  | cons r rs ih =>
    calc (r :: rs).foldl replaced (cs.flatMap f)
        = rs.foldl replaced (cs.flatMap fun c => replaced (f c) r) := by
          rw [List.foldl_cons, replaced, List.flatMap_assoc]
          rfl
      _ = cs.flatMap fun c => rs.foldl replaced (replaced (f c) r) := ih _

/-- A character that is not replaced stays as it is. -/
theorem foldl_replaced_of_ne {rs : List (Char × String)} (h : ∀ r ∈ rs, r.1 ≠ c) :
    rs.foldl replaced [c] = [c] := by
  induction rs with
  | nil => rfl
  | cons r rs ih =>
    obtain ⟨hr, hrs⟩ := List.forall_mem_cons.1 h
    have hkept : replaced [c] r = [c] := by simp [replaced, hr.symm]
    rw [List.foldl_cons, hkept, ih hrs]

/-- **Escaping is replacing.** The references may also be put in by replacing one character in the
whole text after the other: since the ampersand comes first, no replacement meets what another has
put in. -/
theorem escaped_eq_replaced (cs : List Char) : escaped cs = references.foldl replaced cs := by
  have hchar : ∀ c, escapedChar c = references.foldl replaced [c] := by
    intro c
    rcases escapedChar_cases c with ⟨r, hr, rfl, -⟩ | ⟨hnone, hwritten⟩
    · have hreferences : ∀ r ∈ references, escapedChar r.1 = references.foldl replaced [r.1] := by
        decide
      exact hreferences r hr
    · rw [hwritten, foldl_replaced_of_ne hnone]
  calc escaped cs
      = cs.flatMap fun c => references.foldl replaced [c] := by
        rw [escaped, List.flatMap_congr fun c _ => hchar c]
    _ = references.foldl replaced (cs.flatMap fun c => [c]) := (foldl_replaced _ _ _).symm
    _ = references.foldl replaced cs := by rw [List.flatMap_singleton']

/-- One character is read back, whatever follows it. -/
theorem decode_escapedChar (c : Char) (rest : List Char) :
    decode (escapedChar c ++ rest) = c :: decode rest := by
  rcases escapedChar_cases c with ⟨r, hr, rfl, hwritten⟩ | ⟨hnone, hwritten⟩
  · rw [hwritten]
    simp only [references, List.mem_cons, List.not_mem_nil, or_false] at hr
    rcases hr with rfl | rfl | rfl | rfl | rfl <;> rfl
  · have hamp : c ≠ '&' := (hnone ('&', "&amp;") (by decide)).symm
    rw [hwritten]
    simp [decode, decodeFrom, hamp]

example : decode "&#60;&#x3E;&copy;&".toList = "<>&copy;&".toList := by decide

theorem decode_escaped (cs : List Char) : decode (escaped cs) = cs := by
  induction cs with
  | nil => rfl
  | cons c cs ih =>
    calc decode (escaped (c :: cs))
        = decode (escapedChar c ++ escaped cs) := by rw [escaped, List.flatMap_cons, escaped]
      _ = c :: decode (escaped cs) := decode_escapedChar c (escaped cs)
      _ = c :: cs := by rw [ih]

/-! ## Breaks -/

theorem withBreaks_feed (cs : List Char) :
    withBreaks ('\n' :: cs) = '<' :: 'b' :: 'r' :: '>' :: withBreaks cs := rfl

theorem withBreaks_cons (h : c ≠ '\n') : withBreaks (c :: cs) = c :: withBreaks cs := by
  simp [withBreaks, h]

theorem mem_withBreaks (h : c ∈ withBreaks cs) : c ∈ "<br>".toList ∨ c ∈ cs ∧ c ≠ '\n' := by
  obtain ⟨b, hb, hc⟩ := List.mem_flatMap.1 h
  split_ifs at hc with hfeed
  · exact Or.inl hc
  · obtain rfl := List.mem_singleton.1 hc
    exact Or.inr ⟨hb, hfeed⟩

theorem unbroken_withBreaks (h : '<' ∉ cs) : unbroken (withBreaks cs) = cs := by
  induction cs with
  | nil => rfl
  | cons c cs ih =>
    obtain ⟨hc, hcs⟩ : '<' ≠ c ∧ '<' ∉ cs := by simpa using h
    by_cases hfeed : c = '\n'
    · subst hfeed
      rw [withBreaks_feed, unbroken, ih hcs]
    · rw [withBreaks_cons hfeed, unbroken, ih hcs]
      rintro - rfl
      exact fun _ => hc rfl

/-- An opening bracket begins a break. -/
theorem break_of_opening (h : '<' ∉ cs) (hrest : '<' :: rest <:+ withBreaks cs) :
    "br>".toList <+: rest := by
  induction cs with
  | nil => simp [withBreaks] at hrest
  | cons c cs ih =>
    obtain ⟨hc, hcs⟩ : '<' ≠ c ∧ '<' ∉ cs := by simpa using h
    by_cases hfeed : c = '\n'
    · subst hfeed
      rw [withBreaks_feed] at hrest
      simp [List.suffix_cons_iff] at hrest
      rcases hrest with rfl | hrest
      · exact ⟨_, rfl⟩
      · exact ih hcs hrest
    · rw [withBreaks_cons hfeed] at hrest
      rcases List.suffix_cons_iff.1 hrest with heq | hrest
      · exact absurd (List.cons.inj heq).1 hc
      · exact ih hcs hrest

/-- A closing bracket ends a break. -/
theorem break_of_closing (h : '>' ∉ cs) (hfront : front ++ ['>'] <+: withBreaks cs) :
    "<br".toList <:+ front := by
  induction cs generalizing front with
  | nil => simp [withBreaks] at hfront
  | cons c cs ih =>
    obtain ⟨hc, hcs⟩ : '>' ≠ c ∧ '>' ∉ cs := by simpa using h
    by_cases hfeed : c = '\n'
    · subst hfeed
      rw [withBreaks_feed] at hfront
      -- the bracket is the one of this break or stands after it
      rcases front with _ | ⟨c₁, _ | ⟨c₂, _ | ⟨c₃, _ | ⟨c₄, front⟩⟩⟩⟩ <;>
        simp [List.cons_prefix_cons] at hfront
      · obtain ⟨rfl, rfl, rfl⟩ := hfront
        exact List.suffix_rfl
      · exact (ih hcs hfront.2.2.2.2).trans (List.suffix_append [c₁, c₂, c₃, c₄] front)
    · rw [withBreaks_cons hfeed] at hfront
      rcases front with _ | ⟨d, front⟩ <;> simp [List.cons_prefix_cons] at hfront
      · exact absurd hfront hc
      · exact (ih hcs hfront.2).trans (List.suffix_cons d front)

/-- The tags of a text with breaks, and of what follows it. -/
theorem tags_withBreaks (h : '<' ∉ cs) (rest : List Char) :
    tags (withBreaks cs ++ rest) = List.replicate (cs.count '\n') "br" ++ tags rest := by
  induction cs with
  | nil => rfl
  | cons c cs ih =>
    obtain ⟨hc, hcs⟩ : '<' ≠ c ∧ '<' ∉ cs := by simpa using h
    by_cases hfeed : c = '\n'
    · subst hfeed
      calc tags (withBreaks ('\n' :: cs) ++ rest)
          = "br" :: tags (withBreaks cs ++ rest) := rfl
        _ = "br" :: (List.replicate (cs.count '\n') "br" ++ tags rest) := by rw [ih hcs]
        _ = List.replicate (('\n' :: cs).count '\n') "br" ++ tags rest := by
          rw [List.count_cons_self, List.replicate_succ, List.cons_append]
    · rw [withBreaks_cons hfeed, List.count_cons_of_ne hfeed, ← ih hcs]
      simp [tags, tagsFrom, hc.symm]

/-! ## The HTML part -/

/-- What stands in the paragraph of a body. -/
def inner (body : String) : List Char := withBreaks (escaped body.toList)

theorem paragraph_eq (body : String) :
    paragraph body = "<p>" ++ String.ofList (inner body) ++ "</p>" := by
  rw [paragraph, String.ofList_append, String.ofList_append, String.ofList_toList,
    String.ofList_toList, inner]

theorem decode_inner (body : String) : decode (unbroken (inner body)) = body.toList := by
  have hplain : '<' ∉ escaped body.toList := fun h => (isPlain_of_mem_escaped h).1 rfl
  rw [inner, unbroken_withBreaks hplain, decode_escaped]

/-- The paragraph of a body shows the body. -/
theorem inner_shows (body : String) : Shows (inner body) body := by
  have hopening : '<' ∉ escaped body.toList := fun h => (isPlain_of_mem_escaped h).1 rfl
  have hclosing : '>' ∉ escaped body.toList := fun h => (isPlain_of_mem_escaped h).2.1 rfl
  refine ⟨?_, ?_, ?_, ⟨?_, ?_⟩, ?_, decode_inner body⟩
  · intro front rest heq
    exact break_of_opening hopening ⟨front, heq.symm⟩
  · intro front rest heq
    exact break_of_closing hclosing ⟨rest, by simpa [inner] using heq.symm⟩
  · intro h
    rcases mem_withBreaks h with h | ⟨-, h⟩
    · exact absurd h (by decide)
    · exact h rfl
  · intro h
    rcases mem_withBreaks h with h | ⟨h, -⟩
    · exact absurd h (by decide)
    · exact (isPlain_of_mem_escaped h).2.2.1 rfl
  · intro h
    rcases mem_withBreaks h with h | ⟨h, -⟩
    · exact absurd h (by decide)
    · exact (isPlain_of_mem_escaped h).2.2.2 rfl
  · calc tags ("<p>".toList ++ inner body ++ "</p>".toList)
        = "p" :: tags (inner body ++ "</p>".toList) := by
          rw [List.append_assoc]
          rfl
      _ = "p" :: (List.replicate ((escaped body.toList).count '\n') "br" ++ ["/p"]) := by
          rw [inner, tags_withBreaks hopening]
          rfl
      _ = "p" :: List.replicate (body.toList.count '\n') "br" ++ ["/p"] := by
          rw [count_escaped, List.cons_append]

theorem paragraph_injective : Function.Injective paragraph := by
  intro body body' h
  have hinner : inner body = inner body' := by
    rw [paragraph_eq, paragraph_eq] at h
    have hlist := congrArg String.toList h
    simpa using hlist
  have hlist : body.toList = body'.toList := by rw [← decode_inner, hinner, decode_inner]
  exact String.toList_inj.1 hlist

example : paragraph "Hello <friend>\nbye" = "<p>Hello &lt;friend&gt;<br>bye</p>" := by decide

/-- A field of what is posted. -/
def Post.field? (p : Post) (name : String) : Option Value :=
  match p.message.payload with
  | .record fields => Fields.get? fields name
  | _ => none

theorem Post.field?_html (p : Post) : p.field? "html" = some (.text (paragraph p.message.body)) :=
  rfl

end Mail

namespace Mailer

variable {m : Mailer} {target : Url}

/-- **The HTML part shows exactly the text part.** Whatever the body of a message holds, the one
request that is made for it has the body as its text and a paragraph that shows it as its HTML, and
no other body has the same HTML. -/
theorem html_shows_text (htarget : m.target = .ok target) (address subject body : String)
    (env : Responder) (before : List Exchange) :
    ∃ post inner,
      (footprint ((m.send address subject body).dialogue env before).1).posts = [post] ∧
      post.field? "text" = some (.text body) ∧
      post.field? "html" = some (.text ("<p>" ++ String.ofList inner ++ "</p>")) ∧
      Mail.Shows inner body ∧
      ∀ address' subject' other env' before' post',
        (footprint ((m.send address' subject' other).dialogue env' before').1).posts = [post'] →
          post'.field? "html" = post.field? "html" → other = body := by
  have hposts : ∀ address subject body env before,
      (footprint ((m.send address subject body).dialogue env before).1).posts =
        [m.letter target address subject body] := by
    intro address subject body env before
    obtain ⟨-, -, hposts, -⟩ := send_dialogue htarget address subject body env before
    exact hposts
  refine ⟨m.letter target address subject body, Mail.inner body,
    hposts address subject body env before, rfl, ?_, Mail.inner_shows body, ?_⟩
  · rw [Mail.Post.field?_html, ← Mail.paragraph_eq]
    rfl
  · intro address' subject' other env' before' post' hpost hhtml
    rw [hposts, List.singleton_inj] at hpost
    subst hpost
    rw [Mail.Post.field?_html, Mail.Post.field?_html] at hhtml
    have hparagraph : Mail.paragraph other = Mail.paragraph body := by simpa [letter] using hhtml
    exact Mail.paragraph_injective hparagraph

/-- A body that holds markup and references of its own is shown as it is. -/
theorem html_shows_markup : ∃ target, localMailer.target = .ok target ∧ ∃ post inner,
    (footprint ((localMailer.send "to@example.com" "Subject" "<b>&lt;\n").dialogue
      .uneventful []).1).posts = [post] ∧
    post.field? "html" = some (.text ("<p>" ++ String.ofList inner ++ "</p>")) ∧
    Mail.Shows inner "<b>&lt;\n" := by
  obtain ⟨target, htarget, -⟩ := localMailer_target
  obtain ⟨post, inner, hposts, -, hhtml, hshows, -⟩ :=
    html_shows_text htarget "to@example.com" "Subject" "<b>&lt;\n" .uneventful []
  exact ⟨target, htarget, post, inner, hposts, hhtml, hshows⟩

end Mailer

end Automation
