/-! Cutting, joining and searching text. -/
namespace TableQuery.Text

def split (sep : Char) (cs : List Char) : List (List Char) :=
  match cs with
  | [] => [[]]
  | c :: rest =>
    if c = sep then [] :: split sep rest
    else
      match split sep rest with
      | [] => [[c]]
      | piece :: pieces => (c :: piece) :: pieces

def pieces (sep : Char) (s : String) : List String := (split sep s.toList).map String.ofList

def join (sep : String) : List String → String
  | [] => ""
  | [s] => s
  | s :: rest => s ++ sep ++ join sep rest

theorem joinCons (sep s : String) (rest : List String) :
    join sep (s :: rest) = if rest = [] then s else s ++ sep ++ join sep rest := by
  cases rest <;> simp [join]

def startsWith : List Char → List Char → Bool
  | _, [] => true
  | [], _ :: _ => false
  | c :: cs, p :: ps => c == p && startsWith cs ps

def occursIn (pattern : List Char) : List Char → Bool
  | [] => pattern.isEmpty
  | c :: cs => startsWith (c :: cs) pattern || occursIn pattern cs

def endsWith (cs pattern : List Char) : Bool := startsWith cs.reverse pattern.reverse

def substitute (c : Char) (replacement : List Char) (cs : List Char) : List Char :=
  cs.flatMap fun x => if x = c then replacement else [x]

def substituted (c : Char) (replacement s : String) : String :=
  String.ofList (substitute c replacement.toList s.toList)

def copies (n : Nat) (c : Char) : String := String.ofList (List.replicate n c)

def padLeft (width : Nat) (c : Char) (s : String) : String :=
  copies (width - s.length) c ++ s

end TableQuery.Text
