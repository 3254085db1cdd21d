import Workflow.Palette.Catalog
/-!
# The palette of browser automation

The kinds of nodes that a workflow for a browser is made of.
-/
namespace Workflow.Palette.Browser

open Json (Value)

/-! ## Basic -/

def start : Entry where
  title := "Start"
  icon := "fas fa-play"
  description := "Workflow start point"
  category := some "basic"

def openBrowser : Entry where
  title := "Open Browser"
  icon := "fas fa-globe"
  description := "Open a web page in browser"
  category := some "basic"
  defaultData := .ofList [("url", .string "https://example.com")]
  fields :=
    [{ name := "url", label := "URL", widget := .url, required := true,
       defaultValue := some (.string "https://example.com"), placeholder := some "https://example.com",
       description := some "The URL to navigate to" }]

def wait : Entry where
  title := "Wait"
  icon := "fas fa-clock"
  description := "Wait for specified duration"
  category := some "basic"
  defaultData := .ofList [("duration", .ofWord 5)]
  fields :=
    [{ name := "duration", label := "Duration (seconds)", widget := .number, required := true,
       defaultValue := some (.ofWord 5), min := some 1, max := some 300, placeholder := some "5",
       description := some "How long to wait in seconds" }]

def waitElement : Entry where
  title := "Wait for Element"
  icon := "fas fa-search"
  description := "Wait until element appears"
  category := some "basic"
  defaultData := .ofList [("xpath", .string ""), ("timeout", .ofWord 10)]
  fields :=
    [{ name := "xpath", label := "Element XPath", widget := .text, required := true,
       defaultValue := some (.string ""), placeholder := some "//button[@id=\"submit\"]",
       description := some "XPath selector for the element to wait for" },
     { name := "timeout", label := "Timeout (seconds)", widget := .number,
       defaultValue := some (.ofWord 10), min := some 1, max := some 60, placeholder := some "10",
       description := some "Maximum time to wait for element" }]

/-! ## Navigation -/

def newTab : Entry where
  title := "New Tab"
  icon := "fas fa-plus-square"
  description := "Open a new browser tab"
  category := some "navigation"
  defaultData := .ofList [("url", .string ""), ("tab_variable", .string "new_tab")]
  fields :=
    [{ name := "url", label := "URL (optional)", widget := .url, defaultValue := some (.string ""),
       placeholder := some "https://example.com",
       description := some "URL to open in new tab (leave empty for blank tab)" },
     { name := "tab_variable", label := "Tab Variable Name", widget := .text, required := true,
       defaultValue := some (.string "new_tab"), placeholder := some "new_tab",
       description := some "Variable name to reference this tab later" }]

def activateTab : Entry where
  title := "Activate Tab"
  icon := "fas fa-window-restore"
  description := "Switch to a specific tab"
  category := some "navigation"
  defaultData := .ofList [("tab_variable", .string "main_tab")]
  fields :=
    [{ name := "tab_variable", label := "Tab Variable Name", widget := .text, required := true,
       defaultValue := some (.string "main_tab"), placeholder := some "main_tab",
       description := some "Name of the tab variable to switch to",
       reference := some ⟨"new_tab", "tab_variable", ["main_tab"]⟩ }]

def openUrl : Entry where
  title := "Open URL"
  icon := "fas fa-external-link-alt"
  description := "Navigate to URL in current tab"
  category := some "navigation"
  defaultData := .ofList [("url", .string "https://example.com")]
  fields :=
    [{ name := "url", label := "URL", widget := .url, required := true,
       defaultValue := some (.string "https://example.com"), placeholder := some "https://example.com",
       description := some "URL to navigate to in current tab" }]

def closeTab : Entry where
  title := "Close Tab"
  icon := "fas fa-times-circle"
  description := "Close current or specific tab"
  category := some "navigation"
  defaultData := .ofList [("tab_variable", .string ""), ("close_current", .bool true)]
  fields :=
    [{ name := "close_current", label := "Close Current Tab", widget := .checkbox,
       defaultValue := some (.bool true), description := some "If unchecked, specify tab variable below" },
     { name := "tab_variable", label := "Tab Variable (if not current)", widget := .text,
       defaultValue := some (.string ""), placeholder := some "tab_name",
       description := some "Variable name of specific tab to close",
       reference := some ⟨"new_tab", "tab_variable", ["main_tab"]⟩ }]

def goBack : Entry where
  title := "Go Back"
  icon := "fas fa-arrow-left"
  description := "Navigate back in browser history"
  category := some "navigation"
  defaultData := .ofList [("steps", .ofWord 1)]
  fields :=
    [{ name := "steps", label := "Steps Back", widget := .number, defaultValue := some (.ofWord 1),
       min := some 1, max := some 10, placeholder := some "1",
       description := some "Number of pages to go back" }]

def reloadPage : Entry where
  title := "Reload Page"
  icon := "fas fa-redo"
  description := "Reload the current page"
  category := some "navigation"
  defaultData := .ofList [("force_reload", .bool false)]
  fields :=
    [{ name := "force_reload", label := "Force Reload", widget := .checkbox,
       defaultValue := some (.bool false), description := some "Force reload ignoring cached content" }]

/-! ## Interaction -/

def click : Entry where
  title := "Click Element"
  icon := "fas fa-mouse-pointer"
  description := "Click on a page element"
  category := some "interaction"
  defaultData := .ofList
    [("xpath", .string ""), ("wait_timeout", .ofWord 10), ("click_type", .string "single")]
  fields :=
    [{ name := "xpath", label := "XPath", widget := .text, required := true,
       defaultValue := some (.string ""), placeholder := some "//button[@id=\"submit\"]",
       description := some "XPath selector for element to click" },
     { name := "click_type", label := "Click Type", widget := .select,
       defaultValue := some (.string "single"), description := some "Type of mouse click to perform",
       choices :=
         [⟨.string "single", "Single Click"⟩, ⟨.string "double", "Double Click"⟩,
          ⟨.string "right", "Right Click"⟩] },
     { name := "wait_timeout", label := "Wait Timeout (sec)", widget := .number,
       defaultValue := some (.ofWord 10), min := some 1, max := some 60, placeholder := some "10",
       description := some "Time to wait for element before clicking" }]

def typeText : Entry where
  title := "Type Text"
  icon := "fas fa-keyboard"
  description := "Type text into an input field"
  category := some "interaction"
  defaultData := .ofList
    [("xpath", .string ""), ("text", .string ""), ("clear_first", .bool true),
     ("typing_speed", .string "normal")]
  fields :=
    [{ name := "xpath", label := "Input XPath", widget := .text, required := true,
       defaultValue := some (.string ""), placeholder := some "//input[@name=\"username\"]",
       description := some "XPath selector for input field" },
     { name := "text", label := "Text to Type", widget := .textarea, required := true,
       defaultValue := some (.string ""), placeholder := some "Enter your text here...",
       description := some "Text content to type into the field" },
     { name := "clear_first", label := "Clear Field First", widget := .checkbox,
       defaultValue := some (.bool true), description := some "Clear field before entering new text" },
     { name := "typing_speed", label := "Typing Speed", widget := .select,
       defaultValue := some (.string "normal"), description := some "Speed of text entry simulation",
       choices :=
         [⟨.string "slow", "Slow (Human-like)"⟩, ⟨.string "normal", "Normal"⟩, ⟨.string "fast", "Fast"⟩] }]

def scroll : Entry where
  title := "Scroll Page"
  icon := "fas fa-scroll"
  description := "Scroll the page or element"
  category := some "interaction"
  defaultData := .ofList
    [("direction", .string "down"), ("pixels", .ofWord 500), ("target_element", .string ""),
     ("smooth", .bool true)]
  fields :=
    [{ name := "direction", label := "Direction", widget := .select,
       defaultValue := some (.string "down"), description := some "Direction to scroll", choices :=
         [⟨.string "up", "Up"⟩, ⟨.string "down", "Down"⟩, ⟨.string "left", "Left"⟩,
          ⟨.string "right", "Right"⟩, ⟨.string "top", "To Top"⟩, ⟨.string "bottom", "To Bottom"⟩] },
     { name := "pixels", label := "Pixels", widget := .number, defaultValue := some (.ofWord 500),
       min := some 1, max := some 5000, placeholder := some "500",
       description := some "Number of pixels to scroll (ignored for top/bottom)" },
     { name := "target_element", label := "Target Element (optional)", widget := .text,
       defaultValue := some (.string ""), placeholder := some "//div[@class=\"content\"]",
       description := some "XPath of element to scroll (leave empty for page)" },
     { name := "smooth", label := "Smooth Scroll", widget := .checkbox,
       defaultValue := some (.bool true), description := some "Use smooth scrolling effect" }]

/-! ## Keyboard -/

def pressKey : Entry where
  title := "Press Key"
  icon := "fas fa-keyboard"
  description := "Press keyboard keys or combinations"
  category := some "keyboard"
  defaultData := .ofList
    [("key_combination", .string "Enter"), ("modifier_keys", .string ""),
     ("hold_duration", .ofFloat 0.1)]
  fields :=
    [{ name := "key_combination", label := "Key/Combination", widget := .text, required := true,
       defaultValue := some (.string "Enter"), placeholder := some "Enter, Escape, F5, etc.",
       description := some "Key name or combination (e.g., Ctrl+C, Alt+Tab)" },
     { name := "modifier_keys", label := "Modifier Keys", widget := .select,
       defaultValue := some (.string ""), description := some "Additional modifier keys to hold",
       choices :=
         [⟨.string "", "None"⟩, ⟨.string "ctrl", "Ctrl"⟩, ⟨.string "alt", "Alt"⟩,
          ⟨.string "shift", "Shift"⟩, ⟨.string "ctrl+shift", "Ctrl+Shift"⟩,
          ⟨.string "ctrl+alt", "Ctrl+Alt"⟩, ⟨.string "alt+shift", "Alt+Shift"⟩] },
     { name := "hold_duration", label := "Hold Duration (sec)", widget := .number,
       defaultValue := some (.ofFloat 0.1), min := some 0.1, max := some 5,
       placeholder := some "0.1", description := some "How long to hold the key combination" }]

/-! ## Data -/

def elementExists : Entry where
  title := "Element Exists"
  icon := "fas fa-search-plus"
  description := "Check if element exists on page"
  category := some "data"
  defaultData := .ofList
    [("xpath", .string ""), ("save_result", .bool true), ("result_variable", .string "element_exists")]
  fields :=
    [{ name := "xpath", label := "Element XPath", widget := .text, required := true,
       defaultValue := some (.string ""), placeholder := some "//div[@class=\"success\"]",
       description := some "XPath selector for element to check" },
     { name := "save_result", label := "Save Result", widget := .checkbox,
       defaultValue := some (.bool true), description := some "Store the boolean result in a variable" },
     { name := "result_variable", label := "Result Variable Name", widget := .text,
       defaultValue := some (.string "element_exists"), placeholder := some "element_exists",
       description := some "Variable name to store the result (true/false)" }]

def getText : Entry where
  title := "Get Text"
  icon := "fas fa-font"
  description := "Extract text from element"
  category := some "data"
  defaultData := .ofList
    [("xpath", .string ""), ("attribute", .string "text"), ("save_variable", .string "extracted_text")]
  fields :=
    [{ name := "xpath", label := "Element XPath", widget := .text, required := true,
       defaultValue := some (.string ""), placeholder := some "//h1[@class=\"title\"]",
       description := some "XPath selector for element to get text from" },
     { name := "attribute", label := "Attribute to Extract", widget := .select,
       defaultValue := some (.string "text"), description := some "What to extract from the element",
       choices :=
         [⟨.string "text", "Text Content"⟩, ⟨.string "value", "Value Attribute"⟩,
          ⟨.string "href", "Href Attribute"⟩, ⟨.string "src", "Src Attribute"⟩,
          ⟨.string "title", "Title Attribute"⟩, ⟨.string "class", "Class Attribute"⟩,
          ⟨.string "id", "ID Attribute"⟩] },
     { name := "save_variable", label := "Save to Variable", widget := .text, required := true,
       defaultValue := some (.string "extracted_text"), placeholder := some "extracted_text",
       description := some "Variable name to store extracted content" }]

/-! ## File -/

def upload : Entry where
  title := "Upload File"
  icon := "fas fa-upload"
  description := "Upload a file"
  category := some "file"
  defaultData := .ofList [("xpath", .string ""), ("file_path", .string ""), ("wait_after", .ofWord 2)]
  fields :=
    [{ name := "xpath", label := "File Input XPath", widget := .text, required := true,
       defaultValue := some (.string ""), placeholder := some "//input[@type=\"file\"]",
       description := some "XPath selector for file input element" },
     { name := "file_path", label := "File Path", widget := .text, required := true,
       defaultValue := some (.string ""), placeholder := some "/path/to/file.pdf",
       description := some "Full path to the file to upload" },
     { name := "wait_after", label := "Wait After Upload (sec)", widget := .number,
       defaultValue := some (.ofWord 2), min := some 0, max := some 30, placeholder := some "2",
       description := some "Time to wait after file upload completes" }]

def download : Entry where
  title := "Download File"
  icon := "fas fa-download"
  description := "Download a file"
  category := some "file"
  defaultData := .ofList [("xpath", .string ""), ("save_path", .string ""), ("wait_timeout", .ofWord 30)]
  fields :=
    [{ name := "xpath", label := "Download Link XPath", widget := .text, required := true,
       defaultValue := some (.string ""), placeholder := some "//a[@class=\"download-link\"]",
       description := some "XPath selector for download link" },
     { name := "save_path", label := "Save Path", widget := .text, defaultValue := some (.string ""),
       placeholder := some "/path/to/downloads/",
       description := some "Directory to save downloaded file" },
     { name := "wait_timeout", label := "Download Timeout (sec)", widget := .number,
       defaultValue := some (.ofWord 30), min := some 5, max := some 300, placeholder := some "30",
       description := some "Maximum time to wait for download completion" }]

def screenshot : Entry where
  title := "Take Screenshot"
  icon := "fas fa-camera"
  description := "Take a screenshot"
  category := some "file"
  defaultData := .ofList
    [("save_path", .string ""), ("full_page", .bool false), ("element_xpath", .string "")]
  fields :=
    [{ name := "save_path", label := "Save Path", widget := .text, required := true,
       defaultValue := some (.string ""), placeholder := some "/path/to/screenshot.png",
       description := some "Full path where screenshot will be saved" },
     { name := "full_page", label := "Full Page", widget := .checkbox,
       defaultValue := some (.bool false), description := some "Screenshot the full page content" },
     { name := "element_xpath", label := "Element XPath (optional)", widget := .text,
       defaultValue := some (.string ""), placeholder := some "//div[@id=\"content\"]",
       description := some "XPath of specific element to screenshot" }]

/-! ## Control -/

def condition : Entry where
  title := "Condition"
  icon := "fas fa-code-branch"
  description := "Conditional branching"
  category := some "control"
  defaultData := .ofList
    [("condition_type", .string "element_exists"), ("xpath", .string ""),
     ("expected_value", .string ""), ("variable_name", .string "")]
  fields :=
    [{ name := "condition_type", label := "Condition Type", widget := .select, required := true,
       defaultValue := some (.string "element_exists"),
       description := some "Type of condition to evaluate", choices :=
         [⟨.string "element_exists", "Element Exists"⟩, ⟨.string "element_visible", "Element Visible"⟩,
          ⟨.string "text_contains", "Text Contains"⟩, ⟨.string "url_contains", "URL Contains"⟩,
          ⟨.string "variable_equals", "Variable Equals"⟩,
          ⟨.string "variable_contains", "Variable Contains"⟩] },
     { name := "xpath", label := "XPath (if needed)", widget := .text,
       defaultValue := some (.string ""), placeholder := some "//div[@class=\"message\"]",
       description := some "XPath selector (for element-based conditions)" },
     { name := "expected_value", label := "Expected Value", widget := .text,
       defaultValue := some (.string ""), placeholder := some "Success",
       description := some "Value to compare against" },
     { name := "variable_name", label := "Variable Name (if needed)", widget := .text,
       defaultValue := some (.string ""), placeholder := some "my_variable",
       description := some "Variable name (for variable-based conditions)" }]

def loop : Entry where
  title := "Loop"
  icon := "fas fa-sync"
  description := "Repeat actions"
  category := some "control"
  defaultData := .ofList
    [("loop_type", .string "count"), ("count", .ofWord 5), ("condition", .string ""),
     ("max_iterations", .ofWord 100)]
  fields :=
    [{ name := "loop_type", label := "Loop Type", widget := .select,
       defaultValue := some (.string "count"), description := some "Type of loop to execute", choices :=
         [⟨.string "count", "Fixed Count"⟩, ⟨.string "while", "While Condition"⟩,
          ⟨.string "foreach", "For Each Element"⟩] },
     { name := "count", label := "Count", widget := .number, defaultValue := some (.ofWord 5),
       min := some 1, max := some 100, placeholder := some "5",
       description := some "Number of iterations (for fixed count)" },
     { name := "condition", label := "Condition/XPath", widget := .text,
       defaultValue := some (.string ""), placeholder := some "//div[@class=\"item\"]",
       description := some "Condition or XPath (for while/foreach)" },
     { name := "max_iterations", label := "Max Iterations", widget := .number,
       defaultValue := some (.ofWord 100), min := some 1, max := some 1000, placeholder := some "100",
       description := some "Safety limit for maximum iterations" }]

def javascript : Entry where
  title := "Execute JavaScript"
  icon := "fas fa-code"
  description := "Execute custom JavaScript code"
  category := some "control"
  defaultData := .ofList
    [("script", .string "console.log(\"Hello World\");"), ("return_variable", .string "")]
  fields :=
    [{ name := "script", label := "JavaScript Code", widget := .textarea, required := true,
       defaultValue := some (.string "console.log(\"Hello World\");"),
       placeholder := some "console.log(\"Hello World\");",
       description := some "JavaScript code to execute in browser context" },
     { name := "return_variable", label := "Return Variable (optional)", widget := .text,
       defaultValue := some (.string ""), placeholder := some "js_result",
       description := some "Variable name to store script return value" }]

/-! ## All of them -/

def entries : List (String × Entry) :=
  [("start", start), ("open_browser", openBrowser), ("wait", wait), ("wait_element", waitElement),
   ("new_tab", newTab), ("activate_tab", activateTab), ("open_url", openUrl), ("close_tab", closeTab),
   ("go_back", goBack), ("reload_page", reloadPage), ("click", click), ("type_text", typeText),
   ("scroll", scroll), ("press_key", pressKey), ("element_exists", elementExists),
   ("get_text", getText), ("upload", upload), ("download", download), ("screenshot", screenshot),
   ("condition", condition), ("loop", loop), ("javascript", javascript)]

end Workflow.Palette.Browser

namespace Workflow.Palette

/-- The palette that sessions start with. -/
def standard : Palette := ofList Browser.entries

end Workflow.Palette
