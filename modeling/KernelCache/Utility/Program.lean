import KernelCache.Utility.Archiver
import KernelCache.Utility.Calculation
import KernelCache.Utility.Compiler
import KernelCache.Utility.Difference
import KernelCache.Utility.Dump
import KernelCache.Utility.Editor
import KernelCache.Utility.Facts
import KernelCache.Utility.Fields
import KernelCache.Utility.Listing
import KernelCache.Utility.Names
import KernelCache.Utility.Search
import KernelCache.Utility.Viewing

/-
**The programs of the system.**

`Program.find?` knows every program that does not start other programs.
-/

namespace KernelCache.Program

/-- Programs that make and change files. -/
def fileTools : List (String × Tool) := [
  ("cp", Copying.cp), ("mv", Copying.mv), ("ln", Copying.ln), ("install", Copying.install),
  ("rm", FileTools.rm), ("unlink", FileTools.unlink), ("mkdir", FileTools.mkdir),
  ("rmdir", FileTools.rmdir), ("touch", FileTools.touch), ("chmod", FileTools.chmod),
  ("chown", FileTools.chown), ("chgrp", FileTools.chown), ("truncate", FileTools.truncate),
  ("mktemp", FileTools.mktemp), ("sync", FileTools.sync), ("dd", FileTools.dd)]

/-- Programs that read files and write text. -/
def textTools : List (String × Tool) := [
  ("cat", Viewing.cat), ("tac", Viewing.tac), ("rev", Viewing.rev), ("nl", Viewing.nl),
  ("tee", Viewing.tee), ("head", Viewing.head), ("tail", Viewing.tail), ("wc", Viewing.wc),
  ("cmp", Viewing.cmp), ("grep", Search.grep), ("egrep", Search.egrep), ("fgrep", Search.fgrep),
  ("sed", Editor.sed), ("sort", Sorting.sort), ("uniq", Sorting.uniq), ("comm", Sorting.comm),
  ("join", Sorting.join), ("cut", Fields.cut), ("paste", Fields.paste), ("tr", Fields.tr),
  ("fold", Fields.fold), ("expand", Fields.expand), ("diff", Difference.diff), ("od", Dump.od),
  ("base64", Dump.base64), ("sha256sum", Dump.sha256sum), ("md5sum", Dump.md5sum)]

/-- Programs that list files or take paths apart. -/
def nameTools : List (String × Tool) := [
  ("ls", Listing.ls), ("stat", Listing.stat), ("basename", Names.basename),
  ("dirname", Names.dirname), ("readlink", Names.readlink), ("realpath", Names.realpath),
  ("pwd", Names.pwd)]

/-- Programs that compile and link. -/
def buildTools : List (String × Tool) := [
  ("cc", Compiler.run false), ("gcc", Compiler.run false), ("c99", Compiler.runFor "c99"),
  ("c89", Compiler.runFor "c90"), ("c++", Compiler.run true), ("g++", Compiler.run true),
  ("ar", Archiver.run), ("ranlib", Archiver.ranlib)]

/-- Programs that calculate, wait or know something. -/
def smallTools : List (String × Tool) := [
  ("true", Facts.ends 0), ("false", Facts.ends 1), ("expr", Calculation.expr),
  ("seq", Calculation.seq), ("yes", Calculation.yes), ("factor", Calculation.factor),
  ("sleep", Facts.sleep), ("date", Facts.date), ("id", Facts.identity),
  ("whoami", Facts.saying "root"), ("logname", Facts.saying "root"),
  ("hostname", Facts.saying "localhost"), ("nproc", Facts.saying "1"),
  ("arch", Facts.saying "x86_64"), ("uname", Facts.uname), ("printenv", Facts.printenv),
  ("tty", Facts.tty), ("test", Facts.test), ("[", Facts.bracket), ("echo", Facts.echo),
  ("printf", Facts.printf)]

/-- The programs that do not start others. -/
def tools : List (String × Tool) := fileTools ++ textTools ++ nameTools ++ buildTools ++ smallTools

/-- A program by its name. -/
def find? (name : String) : Option Tool := tools.lookup name

/-- The programs that start others. -/
def starters : List String :=
  ["sh", "dash", "bash", "env", "nohup", "nice", "timeout", "setsid", "stdbuf", "xargs", "find",
    "kill"]

/-- The names of all programs. -/
def names : List String := tools.map (·.1) ++ starters

end KernelCache.Program
