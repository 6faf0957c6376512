import Switchboard.Functions.Arithmetic
import Switchboard.Functions.Library

/-!
A sample server: two functions, a prompt, and a chain of the prompt and one of the functions.
-/
namespace Switchboard.Example

/-- The settings of the sample server. -/
def settings : String :=
"port: 3000
log_level: info

endpoints:
  - name: sum
    description: Add two numbers
    method: post
    input_schema:
      type: object
      required: [a, b]
      properties:
        a: \x7btype: number\x7d
        b: \x7btype: number\x7d
    output_schema:
      type: object
      required: [sum]
    python_handler:
      file: handlers/sum.py

  - name: word-count
    description: Count words in text
    input_schema:
      type: object
      required: [text]
      properties:
        text: \x7btype: string\x7d
    python_handler:
      file: handlers/word_count.py

  - name: summarize
    description: One sentence summary
    input_schema:
      type: object
      required: [text]
    output_schema:
      type: object
      required: [summary]
    ai_prompt:
      prompt_file: prompts/summarize.md

  - name: summarize-and-count
    description: Summarize text, then count the words of the summary
    input_schema:
      type: object
      required: [text]
    chain_handler:
      steps:
        - name: summary
          endpoint: summarize
          input:
            text: \"\x7b\x7binput.text\x7d\x7d\"
        - name: words
          endpoint: word-count
          input:
            text: \"\x7b\x7bsummary.summary\x7d\x7d\"
      output:
        summary: \"\x7b\x7bsummary.summary\x7d\x7d\"
        words: \"\x7b\x7bwords.count\x7d\x7d\"
"

/-- The prompt of the sample server. -/
def prompt : String :=
"---
temperature: 0.2
---

Summarize the \x60text\x60 field of the request in one sentence.
Reply with JSON of the form \x7b\"summary\": \"...\"\x7d.
"

/-- The code that adds two numbers. -/
def sum : Functions.Code :=
  .defines (some "Adds two numbers.") [("handler", .function Functions.sum)]

/-- The code that counts words. -/
def wordCount : Functions.Code :=
  .defines (some "Counts whitespace-separated words.") [("handler", .function Functions.wordCount)]

/-- The files of the sample server below a directory. -/
def files (directory : Files.Path) : List (Files.Path × String) :=
  [("endpoints.yaml", settings), ("prompts/summarize.md", prompt), ("handlers/sum.py", ""),
    ("handlers/word_count.py", "")].map fun (name, text) => (directory.under (.read name), text)

/-- The functions of the sample server below a directory. -/
def library (directory : Files.Path) : Functions.Library :=
  ⟨[], [("handlers/sum.py", sum), ("handlers/word_count.py", wordCount)].map fun (name, code) =>
    (directory.under (.read name), code)⟩

end Switchboard.Example
