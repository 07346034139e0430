/-! The words on the command line that choose what the program does. -/
namespace OnfiFlash.CommandLine

inductive Verb where
  | info
  | scan
  | readPage
  | readImage
  | writeImage
  | writeBlock
  | listBridges
deriving DecidableEq, Repr

namespace Verb

def all : List Verb := [info, scan, readPage, readImage, writeImage, writeBlock, listBridges]

def name : Verb → String
  | info => "info"
  | scan => "scan"
  | readPage => "read-page"
  | readImage => "read-image"
  | writeImage => "write-image"
  | writeBlock => "write-block"
  | listBridges => "list-bridges"

def about : Verb → String
  | info => "Print device identification and geometry"
  | scan => "Scan every block for bad block markers"
  | readPage => "Read one raw page (main and spare area)"
  | readImage => "Read the image indexed at the index page"
  | writeImage => "Write an image across good blocks and record it in the index page"
  | writeBlock => "Erase one block and program a file into it"
  | listBridges => "List supported bridges"

/-- What else a user should know about a verb. -/
def caution? : Verb → Option String
  | writeImage => some
      "The whole block holding the index page is erased and only the index page is written again."
  | _ => none

def ofName? (name : String) : Option Verb := all.find? fun verb => verb.name = name

/-- The word that asks for help on another verb. -/
def helpName : String := "help"

/-- The words that can follow the program's own options. -/
def words : List String := all.map name ++ [helpName]

end Verb
end OnfiFlash.CommandLine
