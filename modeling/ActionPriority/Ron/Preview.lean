import ActionPriority.Ron.Lexer

/-! # Looking Ahead in Parentheses

    When values stand in `Some(…)` without parentheses of their own, `Some(1, 2)` holds a
    single value of two items.  Before any item is read, the characters behind the
    parenthesis are looked at, up to the comma or the bracket that tells whether several
    items follow.

    Texts and characters are passed over whole, together with the character right behind
    them.  A comment that begins there is therefore not taken for one.
-/

namespace ActionPriority

namespace Ron

/-! ### Passing over texts -/

/-- What follows the character, the text and the byte text at the start, any of which may be
    missing. -/
def afterQuoted (cs : List Char) : List Char :=
  let cs := match cs with
    | '\'' :: rest => ((character? (escape? false) rest).map Prod.snd).getD cs
    | _ => cs
  let cs := match cs with
    | '"' :: _ => ((quoted? (escape? true) cs).map Prod.snd).getD cs
    | 'r' :: rest => ((rawText? rest).map Prod.snd).getD cs
    | _ => cs
  match cs with
  | 'b' :: '"' :: rest => ((quoted? byteEscape? ('"' :: rest)).map Prod.snd).getD cs
  | 'b' :: 'r' :: rest => ((rawText? rest).map Prod.snd).getD cs
  | _ => cs

/-! ### Counting items -/

/-- Do several items follow, as far as the brackets and commas tell?  So many brackets have
    been opened since.  It goes wrong at the end of the text, and at a slash that begins no
    comment.  Each step uses up a character at least. -/
def severalFrom? : Nat → Nat → List Char → Option Bool
  | 0, _, _ => none
  | steps + 1, level, cs =>
    match (afterGap? (steps + 1) cs).map afterQuoted with
    | some (c :: rest) =>
      if ['(', '[', '\x7b'].contains c then severalFrom? steps (level + 1) rest
      else if [')', ']', '\x7d'].contains c then
        if level = 0 then some false else severalFrom? steps (level - 1) rest
      else if c = ',' ∧ level = 0 then (afterGap? steps rest).map fun rest => rest.head? ≠ some ')'
      else severalFrom? steps level rest
    | _ => none

/-- Do several items follow in the parentheses that have just been opened? -/
def several? (cs : List Char) : Option Bool := severalFrom? cs.length 0 cs

end Ron

end ActionPriority
