/-!
# Character names: punctuation

The part of the table of character names from U+2000 to U+24FF: punctuation, currencies, arrows
and mathematical operators.
-/

namespace ClassSchema.Text.CharacterName

/-- The names of punctuation, currencies, arrows and mathematical operators. -/
def punctuation : List String :=
  ["@2000aEN QUADaEM~aEN SPACEaEM~aTHREE-PER-EM~aFOUR-PER-EM~aSIX-PER-EM~aFIGURE~aPUNCTUATION~",
   "aTHIN~aHAIR~aZERO WIDTH~cNON-JOINERcJOINERaLEFT-TO-RIGHT MARKaRIGHT-TO-LEFT~aHYPHEN",
   "aNON-BREAKING~aFIGURE DASHaEN~aEM~aHORIZONTAL BARaDOUBLE VERTICAL LINEbLOW~",
   "aLEFT SINGLE QUOTATION MARKaRIGHT~~~aSINGLE LOW-9~~bHIGH-REVERSED-9~~aLEFT DOUBLE~~aRIGHT~~~",
   "aDOUBLE LOW-9~~bHIGH-REVERSED-9~~aDAGGERaDOUBLE~aBULLETaTRIANGULAR~aONE DOT LEADERaTWO~~",
   "aHORIZONTAL ELLIPSISaHYPHENATION POINTaLINE SEPARATORaPARAGRAPH~aLEFT-TO-RIGHT EMBEDDING",
   "aRIGHT-TO-LEFT~aPOP DIRECTIONAL FORMATTINGaLEFT-TO-RIGHT OVERRIDEaRIGHT-TO-LEFT~",
   "aNARROW NO-BREAK SPACEaPER MILLE SIGNbTEN THOUSAND~aPRIMEaDOUBLE~aTRIPLE~aREVERSED~bDOUBLE~",
   "bTRIPLE~aCARETaSINGLE LEFT-POINTING ANGLE QUOTATION MARKbRIGHT-POINTING~~~aREFERENCE~",
   "aDOUBLE EXCLAMATION~aINTERROBANGaOVERLINEaUNDERTIEaCHARACTER TIEaCARET INSERTION POINT",
   "aASTERISMaHYPHEN BULLETaFRACTION SLASHaLEFT SQUARE BRACKET WITH QUILLaRIGHT~~~~",
   "aDOUBLE QUESTION MARKaQUESTION EXCLAMATION~aEXCLAMATION QUESTION~aTIRONIAN SIGN ET",
   "aREVERSED PILCROW SIGNaBLACK LEFTWARDS BULLETbRIGHTWARDS~aLOW ASTERISKaREVERSED SEMICOLON",
   "aCLOSE UPaTWO ASTERISKS ALIGNED VERTICALLYaCOMMERCIAL MINUS SIGNaSWUNG DASHaINVERTED UNDERTIE",
   "aFLOWER PUNCTUATION MARKaTHREE DOT PUNCTUATIONaQUADRUPLE PRIMEaFOUR DOT PUNCTUATIONaFIVE~~",
   "aTWO~~aFOUR DOT MARKaDOTTED CROSSaTRICOLONaVERTICAL FOUR DOTSaMEDIUM MATHEMATICAL SPACE",
   "aWORD JOINERaFUNCTION APPLICATIONaINVISIBLE TIMESbSEPARATORbPLUS@2066aLEFT-TO-RIGHT ISOLATE",
   "aRIGHT-TO-LEFT~aFIRST STRONG~aPOP DIRECTIONAL~aINHIBIT SYMMETRIC SWAPPINGaACTIVATE~~",
   "aINHIBIT ARABIC FORM SHAPINGaACTIVATE~~~aNATIONAL DIGIT SHAPESaNOMINAL~~aSUPERSCRIPT ZERO",
   "bLATIN SMALL LETTER I@2074bFOURbFIVEbSIXbSEVENbEIGHTbNINEbPLUS SIGNbMINUSbEQUALS SIGN",
   "bLEFT PARENTHESISbRIGHT~bLATIN SMALL LETTER NaSUBSCRIPT ZERObONEbTWObTHREEbFOURbFIVEbSIXbSEVEN",
   "bEIGHTbNINEbPLUS SIGNbMINUSbEQUALS SIGNbLEFT PARENTHESISbRIGHT~@2090",
   "aLATIN SUBSCRIPT SMALL LETTER AeEeOeXeSCHWAeHeKeLeMeNePeSeT@20A0aEURO-CURRENCY SIGNaCOLON~",
   "aCRUZEIRO~aFRENCH FRANC~aLIRA~aMILL~aNAIRA~aPESETA~aRUPEE~aWON~aNEW SHEQEL~aDONG~aEURO~aKIP~",
   "aTUGRIK~aDRACHMA~aGERMAN PENNY~aPESO~aGUARANI~aAUSTRAL~aHRYVNIA~aCEDI~aLIVRE TOURNOIS~",
   "aSPESMILO~aTENGE~aINDIAN RUPEE~aTURKISH LIRA~aNORDIC MARK~aMANAT~aRUBLE~aLARI~aBITCOIN~aSOM~",
   "@20D0aCOMBINING LEFT HARPOON ABOVEbRIGHT~~bLONG VERTICAL LINE OVERLAYbSHORT~~~",
   "bANTICLOCKWISE ARROW ABOVEbCLOCKWISE~~bLEFT~~bRIGHT~~bRING OVERLAYbCLOCKWISE~~bANTICLOCKWISE~~",
   "bTHREE DOTS ABOVEbFOUR~~bENCLOSING CIRCLEcSQUAREcDIAMONDcCIRCLE BACKSLASH",
   "bLEFT RIGHT ARROW ABOVEbENCLOSING SCREENcKEYCAPcUPWARD POINTING TRIANGLE",
   "bREVERSE SOLIDUS OVERLAYbDOUBLE VERTICAL STROKE~bANNUITY SYMBOLbTRIPLE UNDERDOT",
   "bWIDE BRIDGE ABOVEbLEFTWARDS ARROW OVERLAYbLONG DOUBLE SOLIDUS~",
   "bRIGHTWARDS HARPOON WITH BARB DOWNWARDSbLEFTWARDS~~~~bLEFT ARROW BELOWbRIGHT~~bASTERISK ABOVE",
   "@2100aACCOUNT OFaADDRESSED TO THE SUBJECTaDOUBLE-STRUCK CAPITAL CaDEGREE CELSIUS",
   "aCENTRE LINE SYMBOLaCARE OFaCADA UNAaEULER CONSTANTaSCRUPLEaDEGREE FAHRENHEITaSCRIPT SMALL G",
   "bCAPITAL HaBLACK-LETTER~~aDOUBLE-STRUCK~~aPLANCK CONSTANTcOVER TWO PIaSCRIPT CAPITAL I",
   "aBLACK-LETTER~~aSCRIPT CAPITAL LbSMALL~aL B BAR SYMBOLaDOUBLE-STRUCK CAPITAL NaNUMERO SIGN",
   "aSOUND RECORDING COPYRIGHTaSCRIPT CAPITAL PaDOUBLE-STRUCK~~cQaSCRIPT CAPITAL RaBLACK-LETTER~~",
   "aDOUBLE-STRUCK~~aPRESCRIPTION TAKEaRESPONSEaSERVICE MARKaTELEPHONE SIGNaTRADE MARK~aVERSICLE",
   "aDOUBLE-STRUCK CAPITAL ZaOUNCE SIGNaOHM~aINVERTED~~aBLACK-LETTER CAPITAL Z",
   "aTURNED GREEK SMALL LETTER IOTAaKELVIN SIGNaANGSTROM~aSCRIPT CAPITAL BaBLACK-LETTER CAPITAL C",
   "aESTIMATED SYMBOLaSCRIPT SMALL EbCAPITAL~cFaTURNED~~aSCRIPT CAPITAL MbSMALL OaALEF SYMBOLaBET~",
   "aGIMEL~aDALET~aINFORMATION SOURCEaROTATED CAPITAL QaFACSIMILE SIGNaDOUBLE-STRUCK SMALL PI",
   "cGAMMAbCAPITAL~cPIbN-ARY SUMMATIONaTURNED SANS-SERIF CAPITAL GdLaREVERSED~~~",
   "aTURNED SANS-SERIF CAPITAL YaDOUBLE-STRUCK ITALIC CAPITAL DcSMALL~dEdIdJaPROPERTY LINE",
   "aTURNED AMPERSANDaPER SIGNaAKTIESELSKABaTURNED SMALL FaSYMBOL FOR SAMARITAN SOURCE",
   "aVULGAR FRACTION ONE SEVENTHdNINTHdTENTHdTHIRDcTWO THIRDScONE FIFTHcTWO FIFTHScTHREE~cFOUR~",
   "cONE SIXTHcFIVE SIXTHScONE EIGHTHcTHREE EIGHTHScFIVE~cSEVEN~aFRACTION NUMERATOR ONE",
   "aROMAN NUMERAL~cTWOcTHREEcFOURcFIVEcSIXcSEVENcEIGHTcNINEcTENcELEVENcTWELVEcFIFTYcONE HUNDRED",
   "cFIVE~cONE THOUSANDaSMALL ROMAN NUMERAL ONEdTWOdTHREEdFOURdFIVEdSIXdSEVENdEIGHTdNINEdTEN",
   "dELEVENdTWELVEdFIFTYdONE HUNDREDdFIVE~dONE THOUSANDaROMAN NUMERAL ONE THOUSAND C D",
   "cFIVE THOUSANDcTEN~cREVERSED ONE HUNDREDaLATIN SMALL LETTER REVERSED C",
   "aROMAN NUMERAL SIX LATE FORMcFIFTY EARLY~dTHOUSANDcONE HUNDRED~aVULGAR FRACTION ZERO THIRDS",
   "aTURNED DIGIT TWOcTHREE@2190aLEFTWARDS ARROWaUPWARDS~aRIGHTWARDS~aDOWNWARDS~aLEFT RIGHT~",
   "aUP DOWN~aNORTH WEST~bEAST~aSOUTH~~bWEST~aLEFTWARDS ARROW WITH STROKEaRIGHTWARDS~~~",
   "aLEFTWARDS WAVE ARROWaRIGHTWARDS~~aLEFTWARDS TWO HEADED~aUPWARDS~~~aRIGHTWARDS~~~aDOWNWARDS~~~",
   "aLEFTWARDS ARROW WITH TAILaRIGHTWARDS~~~aLEFTWARDS ARROW FROM BARaUPWARDS~~~aRIGHTWARDS~~~",
   "aDOWNWARDS~~~aUP DOWN ARROW WITH BASEaLEFTWARDS ARROW WITH HOOKaRIGHTWARDS~~~",
   "aLEFTWARDS ARROW WITH LOOPaRIGHTWARDS~~~aLEFT RIGHT WAVE ARROWcARROW WITH STROKE",
   "aDOWNWARDS ZIGZAG ARROWaUPWARDS ARROW WITH TIP LEFTWARDSeRIGHTWARDS",
   "aDOWNWARDS ARROW WITH TIP LEFTWARDSeRIGHTWARDSaRIGHTWARDS ARROW WITH CORNER DOWNWARDS",
   "aDOWNWARDS ARROW WITH CORNER LEFTWARDSaANTICLOCKWISE TOP SEMICIRCLE ARROWaCLOCKWISE~~~",
   "aNORTH WEST ARROW TO LONG BARaLEFTWARDS ARROW TO BAR OVER RIGHTWARDS ARROW TO~",
   "aANTICLOCKWISE OPEN CIRCLE ARROWaCLOCKWISE~~~aLEFTWARDS HARPOON WITH BARB UPWARDSeDOWNWARDS",
   "aUPWARDS HARPOON WITH BARB RIGHTWARDSeLEFTWARDSaRIGHTWARDS HARPOON WITH BARB UPWARDSeDOWNWARDS",
   "aDOWNWARDS HARPOON WITH BARB RIGHTWARDSeLEFTWARDSaRIGHTWARDS ARROW OVER LEFTWARDS ARROW",
   "aUPWARDS ARROW LEFTWARDS OF DOWNWARDS~aLEFTWARDS ARROW OVER RIGHTWARDS~bPAIRED ARROWS",
   "aUPWARDS~~aRIGHTWARDS~~aDOWNWARDS~~aLEFTWARDS HARPOON OVER RIGHTWARDS HARPOON",
   "aRIGHTWARDS HARPOON OVER LEFTWARDS~aLEFTWARDS DOUBLE ARROW WITH STROKEaLEFT RIGHT~~~~",
   "aRIGHTWARDS~~~~aLEFTWARDS DOUBLE ARROWaUPWARDS~~aRIGHTWARDS~~aDOWNWARDS~~aLEFT RIGHT~~",
   "aUP DOWN~~aNORTH WEST~~bEAST~~aSOUTH~~~bWEST~~aLEFTWARDS TRIPLE~aRIGHTWARDS~~",
   "aLEFTWARDS SQUIGGLE~aRIGHTWARDS~~aUPWARDS ARROW WITH DOUBLE STROKEaDOWNWARDS~~~~",
   "aLEFTWARDS DASHED ARROWaUPWARDS~~aRIGHTWARDS~~aDOWNWARDS~~aLEFTWARDS ARROW TO BAR",
   "aRIGHTWARDS~~~aLEFTWARDS WHITE ARROWaUPWARDS~~aRIGHTWARDS~~aDOWNWARDS~~",
   "aUPWARDS WHITE ARROW FROM BARdON PEDESTALfWITH HORIZONTAL BARgVERTICAL~cDOUBLE ARROW",
   "eON PEDESTALaRIGHTWARDS WHITE ARROW FROM WALLaNORTH WEST ARROW TO CORNERaSOUTH EAST~~~",
   "aUP DOWN WHITE ARROWaRIGHT ARROW WITH SMALL CIRCLEaDOWNWARDS ARROW LEFTWARDS OF UPWARDS ARROW",
   "aTHREE RIGHTWARDS ARROWSaLEFTWARDS ARROW WITH VERTICAL STROKEaRIGHTWARDS~~~~aLEFT RIGHT~~~~",
   "aLEFTWARDS ARROW WITH DOUBLE~~aRIGHTWARDS~~~~~aLEFT RIGHT~~~~~aLEFTWARDS OPEN-HEADED ARROW",
   "aRIGHTWARDS~~aLEFT RIGHT~~aFOR ALLaCOMPLEMENTaPARTIAL DIFFERENTIALaTHERE EXISTSbDOES NOT EXIST",
   "aEMPTY SETaINCREMENTaNABLAaELEMENT OFaNOT AN~~aSMALL~~aCONTAINS AS MEMBERaDOES NOT CONTAIN~~",
   "aSMALL CONTAINS~~aEND OF PROOFaN-ARY PRODUCTbCOPRODUCTbSUMMATIONaMINUS SIGNaMINUS-OR-PLUS~",
   "aDOT PLUSaDIVISION SLASHaSET MINUSaASTERISK OPERATORaRING~aBULLET~aSQUARE ROOTaCUBE~aFOURTH~",
   "aPROPORTIONAL TOaINFINITYaRIGHT ANGLEa~aMEASURED~aSPHERICAL~aDIVIDESaDOES NOT DIVIDE",
   "aPARALLEL TOaNOT~~aLOGICAL ANDbORaINTERSECTIONaUNIONaINTEGRALaDOUBLE~aTRIPLE~aCONTOUR~",
   "aSURFACE~aVOLUME~aCLOCKWISE~bCONTOUR~aANTICLOCKWISE~~aTHEREFOREaBECAUSEaRATIOaPROPORTION",
   "aDOT MINUSaEXCESSaGEOMETRIC PROPORTIONaHOMOTHETICaTILDE OPERATORaREVERSED TILDE",
   "aINVERTED LAZY SaSINE WAVEaWREATH PRODUCTaNOT TILDEaMINUS~aASYMPTOTICALLY EQUAL TOaNOT~~~",
   "aAPPROXIMATELY~~bBUT NOT ACTUALLY~~aNEITHER APPROXIMATELY NOR~~~aALMOST~~aNOT~~~",
   "aALMOST EQUAL OR~~aTRIPLE TILDEaALL EQUAL TOaEQUIVALENT~aGEOMETRICALLY~~aDIFFERENCE BETWEEN",
   "aAPPROACHES THE LIMITaGEOMETRICALLY EQUAL TOaAPPROXIMATELY EQUAL TO OR THE IMAGE OF",
   "aIMAGE OF OR APPROXIMATELY EQUAL TOaCOLON EQUALSaEQUALS COLONaRING IN EQUAL TOb~~aCORRESPONDS~",
   "aESTIMATESaEQUIANGULAR TOaSTAR EQUALSaDELTA EQUAL TOaEQUAL TO BY DEFINITIONaMEASURED BY",
   "aQUESTIONED EQUAL TOaNOT~~aIDENTICAL~aNOT~~aSTRICTLY EQUIVALENT~aLESS-THAN OR EQUAL~",
   "aGREATER-THAN~~~aLESS-THAN OVER~~aGREATER-THAN~~~aLESS-THAN BUT NOT~~aGREATER-THAN~~~~",
   "aMUCH LESS-THANbGREATER-THANaBETWEENaNOT EQUIVALENT TObLESS-THANbGREATER-THAN",
   "aNEITHER LESS-THAN NOR EQUAL TObGREATER-THAN~~~aLESS-THAN OR EQUIVALENT~aGREATER-THAN~~~",
   "aNEITHER LESS-THAN NOR~~bGREATER-THAN~~~aLESS-THAN OR GREATER-THANaGREATER-THAN OR LESS-THAN",
   "aNEITHER LESS-THAN NOR GREATER-THANbGREATER-THAN NOR LESS-THANaPRECEDESaSUCCEEDS",
   "aPRECEDES OR EQUAL TOaSUCCEEDS~~~aPRECEDES OR EQUIVALENT~aSUCCEEDS~~~aDOES NOT PRECEDEcSUCCEED",
   "aSUBSET OFaSUPERSET~aNOT A SUBSET~cSUPERSET~aSUBSET OF OR EQUAL TOaSUPERSET~~~~",
   "aNEITHER A SUBSET OF NOR~~cSUPERSET~~~~aSUBSET OF WITH NOT~~aSUPERSET~~~~~aMULTISET",
   "bMULTIPLICATIONbUNIONaSQUARE IMAGE OFbORIGINAL~bIMAGE OF OR EQUAL TObORIGINAL~~~~bCAPbCUP",
   "aCIRCLED PLUSbMINUSbTIMESbDIVISION SLASHbDOT OPERATORbRING~bASTERISK~bEQUALSbDASHaSQUARED PLUS",
   "bMINUSbTIMESbDOT OPERATORaRIGHT TACKaLEFT~aDOWN~aUP~aASSERTIONaMODELSaTRUEaFORCES",
   "aTRIPLE VERTICAL BAR RIGHT TURNSTILEaDOUBLE VERTICAL BAR DOUBLE~~aDOES NOT PROVEaNOT TRUE",
   "aDOES NOT FORCEaNEGATED DOUBLE VERTICAL BAR DOUBLE RIGHT TURNSTILEaPRECEDES UNDER RELATION",
   "aSUCCEEDS~~aNORMAL SUBGROUP OFaCONTAINS AS NORMAL SUBGROUPaNORMAL SUBGROUP OF OR EQUAL TO",
   "aCONTAINS AS NORMAL SUBGROUP~~~aORIGINAL OFaIMAGE~aMULTIMAPaHERMITIAN CONJUGATE MATRIX",
   "aINTERCALATEaXORaNANDaNORaRIGHT ANGLE WITH ARCbTRIANGLEaN-ARY LOGICAL ANDcORbINTERSECTION",
   "bUNIONaDIAMOND OPERATORaDOT~aSTAR~aDIVISION TIMESaBOWTIEaLEFT NORMAL FACTOR SEMIDIRECT PRODUCT",
   "aRIGHT~~~~aLEFT~~aRIGHT~~aREVERSED TILDE EQUALSaCURLY LOGICAL ORcANDaDOUBLE SUBSETbSUPERSET",
   "bINTERSECTIONbUNIONaPITCHFORKaEQUAL AND PARALLEL TOaLESS-THAN WITH DOTaGREATER-THAN~~",
   "aVERY MUCH LESS-THANcGREATER-THANaLESS-THAN EQUAL TO OR~aGREATER-THAN EQUAL TO OR LESS-THAN",
   "a~~~~dGREATER-THANdPRECEDESdSUCCEEDSaDOES NOT PRECEDE OR EQUALcSUCCEED~~",
   "aNOT SQUARE IMAGE OF OR EQUAL TOcORIGINAL~~~~aSQUARE IMAGE OF OR NOT~~bORIGINAL~~~~~",
   "aLESS-THAN BUT NOT EQUIVALENT~aGREATER-THAN~~~~aPRECEDES~~~~aSUCCEEDS~~~~",
   "aNOT NORMAL SUBGROUP OFaDOES NOT CONTAIN AS NORMAL SUBGROUPaNOT NORMAL SUBGROUP OF OR EQUAL TO",
   "aDOES NOT CONTAIN AS NORMAL SUBGROUP OR EQUALaVERTICAL ELLIPSISaMIDLINE HORIZONTAL~",
   "aUP RIGHT DIAGONAL~aDOWN~~~aELEMENT OF WITH LONG HORIZONTAL STROKEdVERTICAL BAR AT END OF~~",
   "aSMALL~~~~~~~~~~aELEMENT OF WITH DOT ABOVEdOVERBARaSMALL~~~~aELEMENT OF WITH UNDERBAR",
   "dTWO HORIZONTAL STROKESaCONTAINS WITH LONG HORIZONTAL STROKEcVERTICAL BAR AT END OF~~",
   "aSMALL~~~~~~~~~aCONTAINS WITH OVERBARaSMALL~~~aZ NOTATION BAG MEMBERSHIPaDIAMETER SIGN",
   "aELECTRIC ARROWaHOUSEaUP ARROWHEADaDOWN~aPROJECTIVEaPERSPECTIVEaWAVY LINEaLEFT CEILINGaRIGHT~",
   "aLEFT FLOORaRIGHT~aBOTTOM RIGHT CROPbLEFT~aTOP RIGHT~bLEFT~aREVERSED NOT SIGNaSQUARE LOZENGE",
   "aARCaSEGMENTaSECTORaTELEPHONE RECORDERaPOSITION INDICATORaVIEWDATA SQUARE",
   "aPLACE OF INTEREST SIGNaTURNED NOT~aWATCHaHOURGLASSaTOP LEFT CORNERbRIGHT~aBOTTOM LEFT~bRIGHT~",
   "aTOP HALF INTEGRALaBOTTOM~~aFROWNaSMILEaUP ARROWHEAD BETWEEN TWO HORIZONTAL BARSaOPTION KEY",
   "aERASE TO THE RIGHTaX IN A RECTANGLE BOXaKEYBOARDaLEFT-POINTING ANGLE BRACKETaRIGHT-POINTING~~",
   "aERASE TO THE LEFTaBENZENE RINGaCYLINDRICITYaALL AROUND-PROFILEaSYMMETRYaTOTAL RUNOUT",
   "aDIMENSION ORIGINaCONICAL TAPERaSLOPEaCOUNTERBOREaCOUNTERSINKaAPL FUNCTIONAL SYMBOL I-BEAM",
   "dSQUISH QUADdQUAD EQUALeDIVIDEeDIAMONDeJOTeCIRCLEdCIRCLE STILEeJOTdSLASH BARdBACKSLASH~",
   "dQUAD SLASHeBACKSLASHeLESS-THANeGREATER-THANdLEFTWARDS VANEdRIGHTWARDS~dQUAD LEFTWARDS ARROW",
   "eRIGHTWARDS~dCIRCLE BACKSLASHdDOWN TACK UNDERBARdDELTA STILEdQUAD DOWN CARETeDELTA",
   "dDOWN TACK JOTdUPWARDS VANEdQUAD UPWARDS ARROWdUP TACK OVERBARdDEL STILEdQUAD UP CARETeDEL",
   "dUP TACK JOTdDOWNWARDS VANEdQUAD DOWNWARDS ARROWdQUOTE UNDERBARdDELTA~dDIAMOND~dJOT~dCIRCLE~",
   "dUP SHOE JOTdQUOTE QUADdCIRCLE STARdQUAD COLONdUP TACK DIAERESISdDEL~dSTAR~dJOT~dCIRCLE~",
   "dDOWN SHOE STILEdLEFT~~dTILDE DIAERESISdGREATER-THAN~dCOMMA BARdDEL TILDEdZILDEdSTILE TILDE",
   "dSEMICOLON UNDERBARdQUAD NOT EQUALeQUESTIONdDOWN CARET TILDEdUP~~dIOTAdRHOdOMEGA",
   "dALPHA UNDERBARdEPSILON~dIOTA~dOMEGA~dALPHAaNOT CHECK MARK",
   "aRIGHT ANGLE WITH DOWNWARDS ZIGZAG ARROWaSHOULDERED OPEN BOXaBELL SYMBOL",
   "aVERTICAL LINE WITH MIDDLE DOTaINSERTION SYMBOLaCONTINUOUS UNDERLINE~aDISCONTINUOUS~~",
   "aEMPHASIS~aCOMPOSITION~aWHITE SQUARE WITH CENTRE VERTICAL LINEaENTER SYMBOLaALTERNATIVE KEY~",
   "aHELM~aCIRCLED HORIZONTAL BAR WITH NOTCHbTRIANGLE DOWNaBROKEN CIRCLE WITH NORTHWEST ARROW",
   "aUNDO SYMBOLaMONOSTABLE~aHYSTERESIS~aOPEN-CIRCUIT-OUTPUT H-TYPE~bL-TYPE~",
   "aPASSIVE-PULL-DOWN-OUTPUT~aPASSIVE-PULL-UP-OUTPUT~aDIRECT CURRENT SYMBOL FORM TWO",
   "aSOFTWARE-FUNCTION SYMBOLaAPL FUNCTIONAL SYMBOL QUADaDECIMAL SEPARATOR KEY SYMBOL",
   "aPREVIOUS PAGEaNEXT~aPRINT SCREEN SYMBOLaCLEAR~~aLEFT PARENTHESIS UPPER HOOKcEXTENSION",
   "cLOWER HOOKaRIGHT PARENTHESIS UPPER~cEXTENSIONcLOWER HOOKaLEFT SQUARE BRACKET UPPER CORNER",
   "dEXTENSIONdLOWER CORNERaRIGHT SQUARE BRACKET UPPER~dEXTENSIONdLOWER CORNER",
   "aLEFT CURLY BRACKET UPPER HOOKdMIDDLE PIECEdLOWER HOOKaCURLY BRACKET EXTENSION",
   "aRIGHT CURLY BRACKET UPPER HOOKdMIDDLE PIECEdLOWER HOOKaINTEGRAL EXTENSIONaHORIZONTAL LINE~",
   "aUPPER LEFT OR LOWER RIGHT CURLY BRACKET SECTIONbRIGHT OR LOWER LEFT~~~aSUMMATION TOPbBOTTOM",
   "aTOP SQUARE BRACKETaBOTTOM~~dOVER TOP SQUARE BRACKETaRADICAL SYMBOL BOTTOM",
   "aLEFT VERTICAL BOX LINEaRIGHT~~~aHORIZONTAL SCAN LINE-1cLINE-3cLINE-7cLINE-9",
   "aDENTISTRY SYMBOL LIGHT VERTICAL AND TOP RIGHTfBOTTOM~eWITH CIRCLEdDOWN AND HORIZONTAL~~",
   "dUP~~~~dVERTICAL WITH TRIANGLEdDOWN AND HORIZONTAL~~dUP~~~~dVERTICAL AND WAVE",
   "dDOWN AND HORIZONTAL WITH~dUP~~~~dDOWN AND HORIZONTALdUP~~dVERTICAL AND TOP LEFTfBOTTOM~",
   "aSQUARE FOOTaRETURN SYMBOLaEJECT~aVERTICAL LINE EXTENSIONaMETRICAL BREVEbLONG OVER SHORT",
   "bSHORT OVER LONGbLONG OVER TWO SHORTSbTWO SHORTS OVER LONGdJOINEDbTRISEMEbTETRASEMEbPENTASEME",
   "aEARTH GROUNDaFUSEaTOP PARENTHESISaBOTTOM~aTOP CURLY BRACKETaBOTTOM~~aTOP TORTOISE SHELL~",
   "aBOTTOM~~~aWHITE TRAPEZIUMaBENZENE RING WITH CIRCLEaSTRAIGHTNESSaFLATNESSaAC CURRENT",
   "aELECTRICAL INTERSECTIONaDECIMAL EXPONENT SYMBOLaBLACK RIGHT-POINTING DOUBLE TRIANGLE",
   "bLEFT-POINTING~~bUP-POINTING~~bDOWN-POINTING~~",
   "bRIGHT-POINTING DOUBLE TRIANGLE WITH VERTICAL BARbLEFT-POINTING~~~~~",
   "bRIGHT-POINTING TRIANGLE WITH DOUBLE~~aALARM CLOCKaSTOPWATCHaTIMER CLOCK",
   "aHOURGLASS WITH FLOWING SANDaBLACK MEDIUM LEFT-POINTING TRIANGLEcRIGHT-POINTING~cUP-POINTING~",
   "cDOWN-POINTING~aDOUBLE VERTICAL BARaBLACK SQUARE FOR STOPbCIRCLE FOR RECORDaPOWER SYMBOL",
   "bON-OFF~bON~bSLEEP~aOBSERVER EYE~aSYMBOL FOR NULLcSTART OF HEADINGeTEXTcEND~~eTRANSMISSION",
   "cENQUIRYcACKNOWLEDGEcBELLcBACKSPACEcHORIZONTAL TABULATIONcLINE FEEDcVERTICAL TABULATION",
   "cFORM FEEDcCARRIAGE RETURNcSHIFT OUTdINcDATA LINK ESCAPEcDEVICE CONTROL ONEeTWOeTHREEeFOUR",
   "cNEGATIVE ACKNOWLEDGEcSYNCHRONOUS IDLEcEND OF TRANSMISSION BLOCKcCANCELcEND OF MEDIUM",
   "cSUBSTITUTEcESCAPEcFILE SEPARATORcGROUP~cRECORD~cUNIT~cSPACEcDELETEaBLANK SYMBOLaOPEN BOX",
   "aSYMBOL FOR NEWLINEcDELETE FORM TWOcSUBSTITUTE~~@2440aOCR HOOKbCHAIRbFORKbINVERTED~",
   "bBELT BUCKLEbBOW TIEbBRANCH BANK IDENTIFICATIONbAMOUNT OF CHECKbDASHbCUSTOMER ACCOUNT NUMBER",
   "bDOUBLE BACKSLASH@2460aCIRCLED DIGIT ONEcTWOcTHREEcFOURcFIVEcSIXcSEVENcEIGHTcNINEbNUMBER TEN",
   "cELEVENcTWELVEcTHIRTEENcFOURTEENcFIFTEENcSIXTEENcSEVENTEENcEIGHTEENcNINETEENcTWENTY",
   "aPARENTHESIZED DIGIT ONEcTWOcTHREEcFOURcFIVEcSIXcSEVENcEIGHTcNINEbNUMBER TENcELEVENcTWELVE",
   "cTHIRTEENcFOURTEENcFIFTEENcSIXTEENcSEVENTEENcEIGHTEENcNINETEENcTWENTYaDIGIT ONE FULL STOP",
   "bTWO~~bTHREE~~bFOUR~~bFIVE~~bSIX~~bSEVEN~~bEIGHT~~bNINE~~aNUMBER TEN~~bELEVEN~~bTWELVE~~",
   "bTHIRTEEN~~bFOURTEEN~~bFIFTEEN~~bSIXTEEN~~bSEVENTEEN~~bEIGHTEEN~~bNINETEEN~~bTWENTY~~",
   "aPARENTHESIZED LATIN SMALL LETTER AeBeCeDeEeFeGeHeIeJeKeLeMeNeOePeQeReSeTeUeVeWeXeYeZ",
   "aCIRCLED LATIN CAPITAL LETTER AeBeCeDeEeFeGeHeIeJeKeLeMeNeOePeQeReSeTeUeVeWeXeYeZ",
   "cSMALL LETTER AeBeCeDeEeFeGeHeIeJeKeLeMeNeOePeQeReSeTeUeVeWeXeYeZbDIGIT ZERO",
   "aNEGATIVE CIRCLED NUMBER ELEVENdTWELVEdTHIRTEENdFOURTEENdFIFTEENdSIXTEENdSEVENTEENdEIGHTEEN",
   "dNINETEENdTWENTYaDOUBLE CIRCLED DIGIT ONEdTWOdTHREEdFOURdFIVEdSIXdSEVENdEIGHTdNINEcNUMBER TEN",
   "aNEGATIVE CIRCLED DIGIT ZERO"]

end ClassSchema.Text.CharacterName
