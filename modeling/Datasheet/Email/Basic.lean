import Datasheet.Domain.Basic
import Datasheet.Failure
import Datasheet.Text.Alphabet
import Datasheet.Text.Space

/-!
# Email addresses

An address is accepted (`Email.read`) if it obeys two rules: that of mail
(`Email.isDeliverable`), which bounds its parts and wants its domain to be a
host name, if need be in ASCII form; and a plainer one (`Email.isPlain`), by
which it is words, points and hyphens around one at sign, with a word at its end.
-/

namespace Datasheet.Email

/-- ASCII letters and digits, and the two letters that are one of them in another
case. -/
def isAsciiAlphanum (c : Char) : Bool := c.isAlphanum || c = 'ſ' || c = '\u212A'

/-! ## The rule of mail -/

/-- The characters before the at sign. -/
def isLocalChar (c : Char) : Bool :=
  isAsciiAlphanum c || c ∈ ".!#$%&'*+/=?^_`\x7b|\x7d~-".toList

/-- A label of a host name: letters and digits, with hyphens within. -/
def isHostLabel (label : List Char) : Bool :=
  label ≠ [] && label.length ≤ 63 && label.all (fun c => isAsciiAlphanum c || c = '-')
    && label.head? ≠ some '-' && label.getLast? ≠ some '-'

def isHostName (domain : List Char) : Bool := (domain.splitOn '.').all isHostLabel

/-- What stands after the last at sign. -/
def domainOf (address : List Char) : List Char :=
  (address.reverse.takeWhile (· ≠ '@')).reverse

def isDeliverable (address : List Char) : Bool :=
  let domain := domainOf address
  let user := address.take (address.length - domain.length - 1)
  domain.length < address.length && user.length ≤ 64 && domain.length ≤ 255
    && user ≠ [] && user.all isLocalChar
    && (isHostName domain || (asciiDomain? domain).any isHostName)

/-! ## The plainer rule -/

/-- The characters of a plain address beside its at sign. -/
def isPlainChar (c : Char) : Bool := isWordChar c || c = '.' || c = '-'

/-- Whether a text is something, a point, and a word. -/
def endsInWord (domain : List Char) : Bool :=
  let word := (domain.reverse.takeWhile (· ≠ '.')).reverse
  word ≠ [] && word.all isWordChar && word.length + 1 < domain.length

def isPlain (address : List Char) : Bool :=
  match address.splitOn '@' with
  | [user, domain] =>
    user ≠ [] && user.all isPlainChar && domain.all isPlainChar && endsInWord domain
  | _ => false

/-! ## Reading -/

def missing : Failure := ⟨.validation, "Email is required"⟩

def malformed : Failure := ⟨.validation, "Invalid email format"⟩

/-- The address in a text, without white space around it. -/
def read (text : Option String) : Except Failure String :=
  let address := trim (text.getD "").toList
  if address = [] then .error missing
  else if isDeliverable address && isPlain address then .ok (.ofList address)
  else .error malformed

end Datasheet.Email
