import GmsRemoteTest.Foundation.AoaProfile
import GmsRemoteTest.Lib.Lines

/-! What `usbip port` lists, as the native Worker reads it: blocks of lines under port headers, and the hosts and busids that their URLs name. -/
namespace GmsRemoteTest.WorkerUsbip

def isWhitespace (c : Char) : Bool :=
  let n := c.toNat
  (9 ≤ n && n ≤ 13) || n == 32 || n == 0x85 || n == 0xA0 || n == 0x1680 || (0x2000 ≤ n && n ≤ 0x200A) || n == 0x2028 || n == 0x2029 ||
    n == 0x202F || n == 0x205F || n == 0x3000

def isDecimal (c : Char) : Bool := (AoaProfile.decimal c).isSome

def isNewline (c : Char) : Bool := c = '\n'

def dropReturn (line : List Char) : List Char := if line.getLast? = some '\r' then line.dropLast else line

def lines (text : List Char) : List (List Char) :=
  (Lines.completeLines isNewline text).map dropReturn ++
    if Lines.unfinished isNewline text = [] then [] else [Lines.unfinished isNewline text]

def splitWhitespace (text : List Char) : List (List Char) := (text.splitOnP isWhitespace).filter (· ≠ [])

def portHeader (raw : List Char) : Option (List Char) :=
  let line := raw.dropWhile isWhitespace
  if ¬"Port".toList.isPrefixOf line then none
  else
    let rest := line.drop 4
    let number := rest.dropWhile isWhitespace
    let digits := number.takeWhile isDecimal
    if rest.takeWhile isWhitespace = [] ∨ digits = [] ∨ (number.dropWhile isDecimal).head? ≠ some ':' then none else some digits

structure Blocks where
  blocks : List (List Char × List Char) := []
  port : List Char := []
  lines : List (List Char) := []

def Blocks.closed (state : Blocks) : List (List Char × List Char) :=
  if state.port = [] then state.blocks else state.blocks ++ [(state.port,['\n'].intercalate state.lines)]

def Blocks.read (state : Blocks) (raw : List Char) : Blocks :=
  match portHeader raw with
  | some digits => {blocks := state.closed, port := digits, lines := [raw]}
  | none => if state.port = [] then state else {state with lines := state.lines ++ [raw]}

def portBlocks (output : List Char) : List (List Char × List Char) :=
  ((lines output ++ ["Port 999999:".toList]).foldl Blocks.read {}).blocks

def urlHostAndPath (raw : List Char) : Option (List Char × List Char) :=
  let value := (raw.reverse.dropWhile fun c => c = ',' || c = ';' || c = ')').reverse
  if ¬"usbip://".toList.isPrefixOf value then none
  else
    let rest := value.drop 8
    if '/' ∉ rest then none
    else
      let authority := rest.takeWhile (· ≠ '/')
      let path := ((rest.dropWhile (· ≠ '/')).drop 1)
      let trimmed := ((path.dropWhile (· = '/')).reverse.dropWhile (· = '/')).reverse
      match authority with
      | '[' :: bracketed => if ']' ∈ bracketed then some (bracketed.takeWhile (· ≠ ']'),trimmed) else none
      | authority =>
        let back := authority.reverse
        some (if ':' ∈ authority then ((back.dropWhile (· ≠ ':')).drop 1).reverse else authority,trimmed)

def portMatches (block : List Char) (sourceHost busid : String) : Bool :=
  (splitWhitespace block).any fun token => urlHostAndPath token = some (sourceHost.toList,busid.toList)

end GmsRemoteTest.WorkerUsbip
