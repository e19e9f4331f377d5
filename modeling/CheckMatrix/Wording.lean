/-
What the program says, in each of its languages.

A wording has one field per message; what a message is about is an argument of its field, so every
message of one language has its counterpart in the other.
-/
import CheckMatrix.Locale

namespace CheckMatrix

/-- The messages of one language. -/
structure Wording where
  errorMark : String
  projectRoot : (path : String) → String
  projectDirNotFound : (path : String) → String
  loadingMatrix : (path : String) → String
  configUnreadable : (path : String) → String
  configMalformed : (path : String) → String
  envOverride : (key value : String) → String
  interruptReceived : String
  planSummary : (count : Nat) → (groups : String) → String
  groupStarted : (name : String) → String
  stepStarted : (name : String) → String
  stepPassed : (name duration : String) → String
  stepFailed : (name code duration : String) → String
  stepCancelled : (name : String) → String
  launchFailed : (reason : String) → String
  logCleanupFailed : (path error : String) → String
  interrupted : String
  reportBanner : String
  logHeader : (name path : String) → (lines : Nat) → String
  logUnreadable : (error : String) → String
  planGroup : (name : String) → String
  planTotal : (count : Nat) → String
  fileExists : (path : String) → String
  useForce : String
  directoryNotCreated : (path : String) → String
  writeFailed : (path : String) → String
  created : (path : String) → String
  about : String
  afterHelp : (config : String) → String
  aboutInit : String
  helpExamples : String
  helpWorkspace : String
  helpGroup : String
  helpConfig : String
  helpProjectDir : String
  helpList : String
  helpLang : String
  helpOutput : String
  helpForce : String

namespace Wording

/-- The English messages. -/
def english : Wording where
  errorMark := "Error:"
  projectRoot path := "Project root: " ++ path
  projectDirNotFound path := "Project directory not found: " ++ path
  loadingMatrix path := "Loading check matrix from: " ++ path
  configUnreadable path := "Failed to read configuration file: " ++ path
  configMalformed path := "Failed to parse configuration file: " ++ path
  envOverride key value := "  env " ++ key ++ "=" ++ value
  interruptReceived :=
    "Interrupt received. Remaining steps will not start; waiting for the current command to exit..."
  planSummary count groups :=
    "Running " ++ toString count ++ " check steps from groups: " ++ groups
  groupStarted name := "=== Group: " ++ name ++ " ==="
  stepStarted name := "Running '" ++ name ++ "'..."
  stepPassed name duration := "'" ++ name ++ "' passed in " ++ duration
  stepFailed name code duration :=
    "'" ++ name ++ "' failed with exit code " ++ code ++ " after " ++ duration
  stepCancelled name := "'" ++ name ++ "' cancelled before its next command"
  launchFailed reason := "Could not start command: " ++ reason
  logCleanupFailed path error := "Failed to remove log file " ++ path ++ ": " ++ error
  interrupted := "The run was interrupted; cancelled steps are reported as ERROR."
  reportBanner := "--- Check Summary ---"
  logHeader name path lines :=
    "Log of '" ++ name ++ "' (" ++ path ++ ", last " ++ toString lines ++ " lines)"
  logUnreadable error := "Log could not be read: " ++ error
  planGroup name := "Group " ++ name
  planTotal count := toString count ++ " check steps"
  fileExists path := "Configuration file already exists: " ++ path
  useForce := "Use --force to overwrite it."
  directoryNotCreated path := "Failed to create directory: " ++ path
  writeFailed path := "Failed to write configuration file: " ++ path
  created path := "Created configuration file: " ++ path
  about :=
    "Runs a matrix of build, test and lint checks across a workspace and its example projects, " ++
    "then reports a single verdict."
  afterHelp config :=
    "Without -e, -w or -g, the groups listed in `default_groups` of " ++ config ++
    " run (every group when it is absent).\n" ++
    "Exit codes: 0 all checks passed, 1 at least one check failed, 2 configuration or usage error."
  aboutInit := "Write a default check matrix configuration"
  helpExamples := "Run the example-project checks (the `examples` group)"
  helpWorkspace := "Run the workspace checks (the `workspace` group)"
  helpGroup := "Run a check group by name (repeatable)"
  helpConfig := "Path to the check matrix configuration file"
  helpProjectDir := "Directory that relative paths in the configuration resolve against"
  helpList := "Print the expanded check steps without running them"
  helpLang := "Language for output messages (e.g. en, zh-CN)"
  helpOutput := "Where to write the configuration"
  helpForce := "Overwrite an existing file"

/-- The Chinese messages. -/
def chinese : Wording where
  errorMark := "错误："
  projectRoot path := "项目根目录：" ++ path
  projectDirNotFound path := "未找到项目目录：" ++ path
  loadingMatrix path := "正在从以下位置加载检查矩阵：" ++ path
  configUnreadable path := "读取配置文件失败：" ++ path
  configMalformed path := "解析配置文件失败：" ++ path
  envOverride key value := "  环境变量 " ++ key ++ "=" ++ value
  interruptReceived := "收到中断信号。剩余步骤不会启动；正在等待当前命令退出..."
  planSummary count groups := "正在运行 " ++ toString count ++ " 个检查步骤，来自组：" ++ groups
  groupStarted name := "=== 检查组：" ++ name ++ " ==="
  stepStarted name := "正在运行 '" ++ name ++ "'..."
  stepPassed name duration := "'" ++ name ++ "' 通过，耗时 " ++ duration
  stepFailed name code duration :=
    "'" ++ name ++ "' 失败，退出码 " ++ code ++ "，耗时 " ++ duration
  stepCancelled name := "'" ++ name ++ "' 在执行下一个命令前被取消"
  launchFailed reason := "无法启动命令：" ++ reason
  logCleanupFailed path error := "删除日志文件 " ++ path ++ " 失败：" ++ error
  interrupted := "运行被中断；已取消的步骤报告为 ERROR。"
  reportBanner := "--- 检查摘要 ---"
  logHeader name path lines :=
    "'" ++ name ++ "' 的日志（" ++ path ++ "，最后 " ++ toString lines ++ " 行）"
  logUnreadable error := "无法读取日志：" ++ error
  planGroup name := "检查组 " ++ name
  planTotal count := "共 " ++ toString count ++ " 个检查步骤"
  fileExists path := "配置文件已存在：" ++ path
  useForce := "使用 --force 覆盖它。"
  directoryNotCreated path := "创建目录失败：" ++ path
  writeFailed path := "写入配置文件失败：" ++ path
  created path := "已创建配置文件：" ++ path
  about := "在工作区及其示例项目上运行构建、测试和 lint 检查矩阵，并报告单一裁决。"
  afterHelp config :=
    "未提供 -e、-w 或 -g 时，运行 " ++ config ++
    " 中 `default_groups` 列出的组（若未设置则运行所有组）。\n" ++
    "退出码：0 全部检查通过，1 至少一项检查失败，2 配置或用法错误。"
  aboutInit := "写入默认的检查矩阵配置"
  helpExamples := "运行示例项目检查（`examples` 组）"
  helpWorkspace := "运行工作区检查（`workspace` 组）"
  helpGroup := "按名称运行检查组（可重复）"
  helpConfig := "检查矩阵配置文件的路径"
  helpProjectDir := "配置中相对路径的解析基准目录"
  helpList := "打印展开后的检查步骤而不运行"
  helpLang := "输出消息的语言（例如 en、zh-CN）"
  helpOutput := "配置文件的写入位置"
  helpForce := "覆盖已存在的文件"

end Wording

/-- The messages of a language. -/
def Locale.wording : Locale → Wording
  | .english => .english
  | .chinese => .chinese

end CheckMatrix
