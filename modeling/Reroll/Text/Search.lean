/-!
# Finding and replacing text

Occurrences are found from left to right and do not overlap. A function that rewrites a text
counts the characters it still has to skip, so it recurses on the text itself.
-/

namespace Reroll.Text

/-- The needle occurs in the text. -/
def occursIn (needle : List Char) : List Char → Bool
  | [] => needle.isEmpty
  | c :: cs => needle.isPrefixOf (c :: cs) || occursIn needle cs

/-- Replaces the occurrences of a nonempty word after `skip` characters. -/
def replaceFrom (old new : List Char) (skip : Nat) : List Char → List Char
  | [] => []
  | c :: cs =>
    match skip with
    | k + 1 => replaceFrom old new k cs
    | 0 =>
      if old.isPrefixOf (c :: cs) then new ++ replaceFrom old new (old.length - 1) cs
      else c :: replaceFrom old new 0 cs

/-- Replaces every occurrence of a nonempty word. -/
def replace (old new cs : List Char) : List Char := replaceFrom old new 0 cs

/-- The parts between the occurrences of a nonempty word, the first part started already. -/
def splitFrom (sep started : List Char) (skip : Nat) : List Char → List (List Char)
  | [] => [started.reverse]
  | c :: cs =>
    match skip with
    | k + 1 => splitFrom sep started k cs
    | 0 =>
      if sep.isPrefixOf (c :: cs) then started.reverse :: splitFrom sep [] (sep.length - 1) cs
      else splitFrom sep (c :: started) 0 cs

/-- The parts of a text between the occurrences of a nonempty word. -/
def splitOn (sep cs : List Char) : List (List Char) := splitFrom sep [] 0 cs

/-- The longest runs of characters that satisfy `p`, the current one started already. -/
def runsFrom (p : Char → Bool) (started : List Char) : List Char → List (List Char)
  | [] => if started.isEmpty then [] else [started.reverse]
  | c :: cs =>
    if p c then runsFrom p (c :: started) cs
    else if started.isEmpty then runsFrom p [] cs
    else started.reverse :: runsFrom p [] cs

/-- The longest runs of characters that satisfy `p`. -/
def runsOf (p : Char → Bool) (cs : List Char) : List (List Char) := runsFrom p [] cs

/-- Replaces each longest run of characters that satisfy `p` by one character. -/
def squeeze (p : Char → Bool) (by' : Char) (inRun : Bool) : List Char → List Char
  | [] => []
  | c :: cs =>
    if p c then (if inRun then squeeze p by' true cs else by' :: squeeze p by' true cs)
    else c :: squeeze p by' false cs

end Reroll.Text
